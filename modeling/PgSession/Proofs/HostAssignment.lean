import PgSession.Config.Endpoint
import PgSession.Config.Environment
import PgSession.Proofs.UrlReading

/-!
Which of several hosts is dialled. Urls, variables and callers assign hosts one after another, and a
host that names a socket is kept apart from one that is a name. The last socket is dialled if there
ever was one: a name that is assigned after it is not heard, although a socket that is assigned after
a name is.
-/

namespace PgSession.Proofs

def namesSocket (host : String) : Bool := ['/'].isPrefixOf host.toList

/-- The settings after these hosts were assigned, in this order. -/
structure Assigned (hosts : List String) (config : Config) : Prop where
  socket : config.socket = (hosts.filter namesSocket).getLast?
  host : config.host = ((hosts.filter fun host => !namesSocket host).getLast?).getD "localhost"

namespace Assigned

variable {hosts : List String} {config config' : Config}

private theorem forUser (user : String) : Assigned [] (.forUser user) := ⟨rfl, rfl⟩

private theorem keep (assigned : Assigned hosts config) (socket : config'.socket = config.socket)
    (host : config'.host = config.host) : Assigned hosts config' :=
  ⟨socket.trans assigned.socket, host.trans assigned.host⟩

private theorem setHost (assigned : Assigned hosts config) (host : String) :
    Assigned (hosts ++ [host]) (config.setHost host) := by
  have change : config.setHost host =
      if namesSocket host then { config with socket := some host } else { config with host } := rfl
  obtain ⟨socket, name⟩ := assigned
  rw [change]
  cases named : namesSocket host with
  | true => exact ⟨by simp [named], by simp [named, name]⟩
  | false => exact ⟨by simp [named, socket], by simp [named]⟩

private theorem host? (assigned : Assigned hosts config) (host? : Option String) :
    Assigned (hosts ++ host?.toList) (Config.orElse host? config Config.setHost) := by
  cases host? with
  | none =>
    change Assigned (hosts ++ []) config
    rwa [List.append_nil]
  | some host => exact assigned.setHost host

private theorem other? {α : Type} (assigned : Assigned hosts config) (setting? : Option α)
    {set : Config → α → Config} (keeps : ∀ value, (set config value).socket = config.socket ∧
      (set config value).host = config.host) :
    Assigned hosts (Config.orElse setting? config set) := by
  cases setting? with
  | none => exact assigned
  | some value => exact assigned.keep (keeps value).1 (keeps value).2

end Assigned

/-- The host that a setting assigns, if any. -/
def Setting.hosts : Setting → List String
  | .host value => [value]
  | _ => []

private theorem Assigned.set {hosts : List String} {config : Config}
    (assigned : Assigned hosts config)
    (setting : Setting) : Assigned (hosts ++ Setting.hosts setting) (config.set setting) := by
  cases setting with
  | host value => exact assigned.setHost value
  | _ =>
    change Assigned (hosts ++ []) _
    rw [List.append_nil]
    exact assigned.keep rfl rfl

private theorem Assigned.foldl_set {hosts : List String} {config : Config}
    (assigned : Assigned hosts config) (settings : List Setting) :
    Assigned (hosts ++ settings.flatMap Setting.hosts) (settings.foldl Config.set config) := by
  induction settings generalizing hosts config with
  | nil => simpa using assigned
  | cons setting settings ih =>
    rw [List.flatMap_cons, ← List.append_assoc]
    exact ih (assigned.set setting)

/-- The host that a piece of a query assigns, if any. -/
def pieceHosts (piece : List Char) : List String :=
  match Url.splitPair piece with
  | .ok (name, value) => if name = hostName then [value] else []
  | .error _ => []

/-- The hosts that a url assigns: its authority's, then its query's. -/
def Url.hosts (url : Url) : List String :=
  (match Url.decodePart? .host url.host with
    | .ok host => host.toList
    | .error _ => []) ++ (Url.pieces url).flatMap pieceHosts

private theorem Assigned.setQuery {hosts : List String} {config config' : Config}
    {piece : List Char}
    (assigned : Assigned hosts config) (accepted : config.setQuery piece = .ok config') :
    Assigned (hosts ++ pieceHosts piece) config' := by
  obtain ⟨name, value, split, queried⟩ := setQuery_inv accepted
  rw [pieceHosts, split]
  dsimp only
  cases queried with
  | host named =>
    rw [if_pos named]
    exact assigned.setHost value
  | sslMode named ssl =>
    rw [named, if_neg (by decide), List.append_nil]
    exact assigned.keep rfl rfl
  | timeout named timeout =>
    rw [named, if_neg (by decide), List.append_nil]
    exact assigned.keep rfl rfl
  | parameter other =>
    have different : name ≠ hostName := fun same => other (same ▸ by decide)
    rw [if_neg different, List.append_nil]
    exact assigned.keep rfl rfl

private theorem Assigned.setPort {hosts : List String} {config config' : Config}
    {fault : ParseError} {port? : Option (List Char)} (assigned : Assigned hosts config)
    (accepted : config.setPort fault port? = .ok config') : Assigned hosts config' := by
  obtain ⟨port, rfl⟩ := setPort_inv accepted
  exact assigned.keep rfl rfl

theorem ofUrl_assigned {url : Url} {config : Config} (accepted : Config.ofUrl url = .ok config) :
    Assigned (Url.hosts url) config := by
  obtain ⟨user, password, host?, database, ported, parts⟩ := ofUrl_inv accepted
  have start : Assigned [] { user := if user = "" then Config.defaultUser else user, password } :=
    ⟨rfl, rfl⟩
  have named : Assigned host?.toList ported := (start.host? host?).setPort parts.port
  have complete : Assigned host?.toList { ported with database } := named.keep rfl rfl
  rw [Url.hosts, parts.hostPart]
  exact foldlM_setQuery complete Assigned.setQuery parts.query

/-- The hosts in the text of a url. -/
def textHosts (text : String) : List String :=
  match Url.ofText text.toList with
  | .ok url => Url.hosts url
  | .error _ => []

private theorem parse_assigned {text : String} {config : Config}
    (accepted : Config.parse text = .ok config) : Assigned (textHosts text) config := by
  obtain ⟨url, found, accepted⟩ := except_bind_inv accepted
  rw [textHosts, found]
  exact ofUrl_assigned accepted

/-- The hosts that variables assign: those of the url, then the one of its own. -/
def Environment.hosts (environment : Environment) : List String :=
  environment.databaseUrl.toList.flatMap textHosts ++ environment.host.toList

private theorem databaseUrl_assigned {url? : Option String} {config? : Option Config}
    (parsed : url?.mapM Config.parse = .ok config?) :
    Assigned (url?.toList.flatMap textHosts) (config?.getD (.forUser Config.defaultUser)) := by
  cases url? with
  | none =>
    cases parsed
    exact Assigned.forUser _
  | some url =>
    obtain ⟨config, accepted, same⟩ := except_bind_inv parsed
    cases same
    simpa using parse_assigned accepted

theorem ofEnvironment_assigned {environment : Environment} {config : Config}
    (accepted : Config.ofEnvironment? environment = .ok config) :
    Assigned (Environment.hosts environment) config := by
  obtain ⟨url?, parsed, accepted⟩ := except_bind_inv accepted
  obtain ⟨ported, port, accepted⟩ := except_bind_inv accepted
  obtain ⟨mode?, -, accepted⟩ := except_bind_inv accepted
  cases accepted
  have start := databaseUrl_assigned parsed
  have named : Assigned (Environment.hosts environment) ported := by
    refine Assigned.setPort (Assigned.host? ?_ environment.host) port
    exact (start.other? environment.user fun _ => ⟨rfl, rfl⟩).other? _ fun _ => ⟨rfl, rfl⟩
  refine Assigned.keep (Assigned.other? (named.other? environment.database ?_) mode? ?_) rfl rfl
  · exact fun _ => ⟨rfl, rfl⟩
  · exact fun _ => ⟨rfl, rfl⟩

/-- Where settings come from before a caller changes them one by one. Variables are read strictly, or
with a fallback for those that are invalid. -/
inductive Origin where
  | user (name : String)
  | url (text : String)
  | environment (values : Environment)
  | fallback (values : Environment)

namespace Origin

def config? : Origin → Except ParseError Config
  | .user name => .ok (.forUser name)
  | .url text => Config.parse text
  | .environment values => Config.ofEnvironment? values
  | .fallback values => .ok (Config.ofEnvironment values).1

/-- The hosts assigned by whatever of an origin is used, in order. -/
def hosts : Origin → List String
  | .user _ => []
  | .url text => textHosts text
  | .environment values => Environment.hosts values
  | .fallback values =>
    let urlless : Environment := { values with databaseUrl := none }
    if (Config.ofEnvironment? values).isOk then Environment.hosts values
    else if (Config.ofEnvironment? urlless).isOk then Environment.hosts urlless
    else []

private theorem assigned {origin : Origin} {config : Config}
    (accepted : origin.config? = .ok config) : Assigned origin.hosts config := by
  cases origin with
  | user name =>
    cases accepted
    exact Assigned.forUser name
  | url text => exact parse_assigned accepted
  | environment values => exact ofEnvironment_assigned accepted
  | fallback values =>
    cases accepted
    simp only [hosts, Config.ofEnvironment]
    cases strict : Config.ofEnvironment? values with
    | ok config => exact ofEnvironment_assigned strict
    | error error =>
      cases urlless : Config.ofEnvironment? { values with databaseUrl := none } with
      | ok config => exact ofEnvironment_assigned urlless
      | error error => exact Assigned.forUser Config.defaultUser

end Origin

/-- A host that names a socket is dialled there, any other by its name. -/
def hostEndpoint (host : String) (port : UInt16) : Endpoint :=
  if namesSocket host then .unix (Config.socketPath host port) else .tcp host port

def lastHost (hosts : List String) : String := hosts.getLast?.getD "localhost"

/-- The last socket, or the last host if none is a socket. -/
def dialledHost (hosts : List String) : String :=
  ((hosts.filter namesSocket).getLast? <|> hosts.getLast?).getD "localhost"

section

variable {hosts : List String}

private theorem namesSocket_of_getLast? {socket : String}
    (last : (hosts.filter namesSocket).getLast? = some socket) : namesSocket socket = true :=
  (List.mem_filter.mp (List.mem_of_getLast? last)).2

private theorem all_names (none : (hosts.filter namesSocket).getLast? = none) :
    ∀ host ∈ hosts, namesSocket host = false := by
  rw [List.getLast?_eq_none_iff, List.filter_eq_nil_iff] at none
  exact fun host member => Bool.eq_false_iff.mpr (none host member)

private theorem lastHost_name (names : ∀ host ∈ hosts, namesSocket host = false) :
    namesSocket (lastHost hosts) = false := by
  unfold lastHost
  cases last : hosts.getLast? with
  | none => rfl
  | some host => exact names host (List.mem_of_getLast? last)

private theorem Assigned.endpoint {config : Config} (assigned : Assigned hosts config) :
    config.endpoint = hostEndpoint (dialledHost hosts) config.port := by
  rw [Config.endpoint, assigned.socket, dialledHost, hostEndpoint]
  cases last : (hosts.filter namesSocket).getLast? with
  | some socket =>
    change _ = if namesSocket socket then _ else _
    rw [if_pos (namesSocket_of_getLast? last)]
    rfl
  | none =>
    have names := all_names last
    have all : hosts.filter (fun host => !namesSocket host) = hosts :=
      List.filter_eq_self.mpr fun host member => by rw [names host member]; rfl
    change _ = if namesSocket (lastHost hosts) then _ else _
    rw [lastHost_name names, assigned.host, all]
    rfl

/-- A name is not heard after a socket. -/
theorem dialledHost_iff (port : UInt16) :
    hostEndpoint (dialledHost hosts) port = hostEndpoint (lastHost hosts) port ↔
      (∀ host ∈ hosts, namesSocket host = false) ∨ namesSocket (lastHost hosts) = true := by
  cases last : (hosts.filter namesSocket).getLast? with
  | none =>
    have same : dialledHost hosts = lastHost hosts := by
      rw [dialledHost, last]
      rfl
    rw [same]
    exact iff_of_true rfl (.inl (all_names last))
  | some socket =>
    have dialled : dialledHost hosts = socket := by
      rw [dialledHost, last]
      rfl
    have named := namesSocket_of_getLast? last
    have member := (List.mem_filter.mp (List.mem_of_getLast? last)).1
    rw [dialled]
    cases final : namesSocket (lastHost hosts) with
    | false =>
      refine iff_of_false ?_ ?_
      · rw [hostEndpoint, hostEndpoint, named, final]
        nofun
      · rintro (names | ⟨⟨⟩⟩)
        rw [names socket member] at named
        cases named
    | true =>
      refine iff_of_true ?_ (.inr rfl)
      -- The last host is a socket, so it is the last of the sockets too.
      cases ends : hosts.getLast? with
      | none =>
        rw [List.getLast?_eq_none_iff.mp ends] at member
        cases member
      | some host =>
        obtain ⟨front, rfl⟩ := List.getLast?_eq_some_iff.mp ends
        rw [lastHost, ends, Option.getD_some] at final ⊢
        rw [List.filter_append, List.filter_cons_of_pos final, List.filter_nil,
          List.getLast?_concat] at last
        rw [Option.some.inj last]

end

/-- Among the hosts assigned by an origin and then by a caller, the last socket is dialled, and the
last host only if it is one, or if there is no socket at all. -/
theorem endpoint_of_hosts {origin : Origin} {config : Config} (accepted : origin.config? = .ok config)
    (settings : List Setting) :
    let built := settings.foldl Config.set config
    let hosts := origin.hosts ++ settings.flatMap Setting.hosts
    built.endpoint = hostEndpoint (dialledHost hosts) built.port ∧
      (built.endpoint = hostEndpoint (lastHost hosts) built.port ↔
        (∀ host ∈ hosts, namesSocket host = false) ∨ namesSocket (lastHost hosts) = true) := by
  intro built hosts
  have assigned : Assigned hosts built := (Origin.assigned accepted).foldl_set settings
  exact ⟨assigned.endpoint, by rw [assigned.endpoint]; exact dialledHost_iff built.port⟩

private def socketUrl : Environment :=
  { databaseUrl := some "postgres:///app?host=/run/postgresql", host := some "db.example.com" }

private def socketConfig : Config :=
  { user := "postgres", socket := some "/run/postgresql", host := "db.example.com",
    database := some "app" }

private theorem socketUrl_accepted : (Origin.environment socketUrl).config? = .ok socketConfig :=
  except_of_toOption (by decide +kernel)

/-- A url that names a socket, and a variable that names a host. -/
theorem endpoint_of_hosts_socket :
    (Origin.environment socketUrl).config? = .ok socketConfig ∧
      socketConfig.endpoint = hostEndpoint (dialledHost ["/run/postgresql", "db.example.com"]) 5432 ∧
      socketConfig.endpoint = .unix "/run/postgresql/.s.PGSQL.5432" := by
  have dialled := (endpoint_of_hosts socketUrl_accepted []).1
  have hosts : (Origin.environment socketUrl).hosts = ["/run/postgresql", "db.example.com"] := by
    decide +kernel
  rw [hosts] at dialled
  exact ⟨socketUrl_accepted, dialled, by decide +kernel⟩

/-- The host of a variable does not override the socket of a url. -/
theorem last_host_unheard : ¬ ∀ (origin : Origin) (config : Config), origin.config? = .ok config →
    ∀ settings : List Setting, (settings.foldl Config.set config).endpoint =
      hostEndpoint (lastHost (origin.hosts ++ settings.flatMap Setting.hosts))
        (settings.foldl Config.set config).port := by
  intro always
  have dialled := always (.environment socketUrl) socketConfig socketUrl_accepted []
  revert dialled
  decide +kernel

end PgSession.Proofs
