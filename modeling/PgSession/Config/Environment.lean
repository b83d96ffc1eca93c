import PgSession.Config.Url

/-! Settings taken from environment variables. A url among them provides what the other variables
do not say. -/

namespace PgSession

/-- The variables that are looked at; one that is not set, or is no text, is absent. -/
structure Environment where
  databaseUrl : Option String := none
  user : Option String := none
  pass : Option String := none
  password : Option String := none
  host : Option String := none
  port : Option String := none
  database : Option String := none
  sslMode : Option String := none
deriving DecidableEq

namespace Config

/-- Fails when any variable is invalid. The database is always known afterwards. -/
def ofEnvironment? (environment : Environment) : Except ParseError Config := do
  let config := (← environment.databaseUrl.mapM parse).getD (forUser defaultUser)
  let config := orElse environment.user config fun config user => { config with user }
  let config := orElse (environment.pass <|> environment.password) config
    fun config password => config.set (.password password)
  let config := orElse environment.host config setHost
  let config ← config.setPort .invalidPortVariable (environment.port.map String.toList)
  let config := orElse environment.database config
    fun config database => config.set (.database database)
  let config := orElse (← environment.sslMode.mapM SslMode.parse) config
    fun config mode => config.set (.ssl mode)
  return { config with database := some config.databaseName }

/-- Falls back when a variable is invalid: first the url is left out, then everything. The fault is
logged. -/
def ofEnvironment (environment : Environment) : Config × List Log.Record :=
  match ofEnvironment? environment with
  | .ok config => (config, [])
  | .error error =>
    let config := match ofEnvironment? { environment with databaseUrl := none } with
      | .ok config => config
      | .error _ => forUser defaultUser
    (config, [⟨.warn, s!"Ignoring invalid environment config: {error.message}"⟩])

end Config

end PgSession
