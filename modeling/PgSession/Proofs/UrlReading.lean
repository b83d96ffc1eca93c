import PgSession.Config.Url
import PgSession.Proofs.TextRoundTrip

/-!
What an accepted url was made of. Every part of it was decoded, and every piece of its query set one
thing.
-/

namespace PgSession.Proofs
open Text

theorem except_bind_inv {ε α β : Type} {first : Except ε α} {next : α → Except ε β} {value : β}
    (ran : (first >>= next) = .ok value) : ∃ middle, first = .ok middle ∧ next middle = .ok value := by
  cases first with
  | error error => cases ran
  | ok middle => exact ⟨middle, rfl, ran⟩

theorem except_of_toOption {ε α : Type} {result : Except ε α} {value : α}
    (found : result.toOption = some value) : result = .ok value := by
  cases result with
  | error error => cases found
  | ok other => exact congrArg Except.ok (Option.some.inj found)

theorem utf8_decodePart {part : UrlPart} {text : List Char} {decoded : String}
    (accepted : Url.decodePart part text = .ok decoded) : utf8 decoded = percentDecode text := by
  unfold Url.decodePart at accepted
  split at accepted
  · next found =>
    cases accepted
    exact utf8_decodeUtf8 found
  · cases accepted

theorem decodePart?_inv {part : UrlPart} {text : List Char} {decoded? : Option String}
    (accepted : Url.decodePart? part text = .ok decoded?) :
    decoded?.map utf8 = if text.isEmpty then none else some (percentDecode text) := by
  unfold Url.decodePart? at accepted
  split at accepted
  · next empty =>
    cases accepted
    rw [if_pos empty]
    rfl
  · next nonempty =>
    rw [if_neg nonempty]
    cases found : Url.decodePart part text with
    | ok decoded =>
      rw [found] at accepted
      cases accepted
      exact congrArg some (utf8_decodePart found)
    | error error =>
      rw [found] at accepted
      cases accepted

theorem splitPair_inv {piece name : List Char} {value : String}
    (accepted : Url.splitPair piece = .ok (name, value)) :
    ∃ raw, splitFirst '=' piece = some (name, raw) ∧
      Url.decodePart .queryValue raw = .ok value := by
  unfold Url.splitPair at accepted
  split at accepted
  · cases accepted
  · next found raw split =>
    cases decoded : Url.decodePart .queryValue raw with
    | ok decoded' =>
      rw [decoded] at accepted
      cases accepted
      exact ⟨raw, split, decoded⟩
    | error error =>
      rw [decoded] at accepted
      cases accepted

/-- The pieces of a query. -/
def Url.pieces (url : Url) : List (List Char) :=
  (splitAll '&' url.query).filter (!·.isEmpty)

def sslModeName : List Char := "sslmode".toList
def hostName : List Char := "host".toList
def timeoutName : List Char := "connect_timeout".toList

/-- The names with a meaning of their own. -/
def reserved : List (List Char) := [sslModeName, hostName, timeoutName]

/-- What a name and a value in a query set. -/
inductive Queried (config : Config) (name : List Char) (value : String) : Config → Prop
  | sslMode (named : name = sslModeName) (ssl : SslMode) : Queried config name value { config with ssl }
  | host (named : name = hostName) : Queried config name value (config.setHost value)
  | timeout (named : name = timeoutName) (timeout : Nat) :
    Queried config name value { config with timeout }
  | parameter (other : name ∉ reserved) :
    Queried config name value (config.set (.parameter (String.ofList name) value))

theorem setQuery_inv {config config' : Config} {piece : List Char}
    (accepted : config.setQuery piece = .ok config') :
    ∃ name value, Url.splitPair piece = .ok (name, value) ∧ Queried config name value config' := by
  obtain ⟨⟨name, value⟩, split, accepted⟩ := except_bind_inv accepted
  refine ⟨name, value, split, ?_⟩
  dsimp only at accepted
  split at accepted
  · next named =>
    obtain ⟨ssl, -, same⟩ := except_bind_inv accepted
    cases same
    exact .sslMode named ssl
  next notMode =>
  split at accepted
  · next named =>
    cases accepted
    exact .host named
  next notHost =>
  split at accepted
  · next named =>
    split at accepted <;> cases accepted
    exact .timeout named _
  · next notTimeout =>
    cases accepted
    refine .parameter ?_
    rw [reserved, List.mem_cons, List.mem_cons, List.mem_singleton, not_or, not_or]
    exact ⟨notMode, notHost, notTimeout⟩

/-- What holds after a whole query, if every piece of it adds its own share. -/
theorem foldlM_setQuery {α : Type} {pieces : List (List Char)} {config config' : Config}
    {Holds : List α → Config → Prop} {share : List Char → List α} {before : List α}
    (start : Holds before config)
    (each : ∀ {before config config' piece}, Holds before config →
      config.setQuery piece = .ok config' → Holds (before ++ share piece) config')
    (accepted : pieces.foldlM Config.setQuery config = .ok config') :
    Holds (before ++ pieces.flatMap share) config' := by
  induction pieces generalizing before config with
  | nil =>
    cases accepted
    simpa using start
  | cons piece pieces ih =>
    rw [List.foldlM_cons] at accepted
    obtain ⟨between, first, rest⟩ := except_bind_inv accepted
    rw [List.flatMap_cons, ← List.append_assoc]
    exact ih (each start first) rest

/-- How settings come out of a url: login, host and port, database, query. -/
structure UrlParts (url : Url) (user : String) (password host database : Option String)
    (ported config : Config) : Prop where
  userPart : Url.decodePart .user url.user = .ok user
  hostPart : Url.decodePart? .host url.host = .ok host
  port : (Config.orElse host { user := if user = "" then Config.defaultUser else user, password }
    Config.setHost).setPort .invalidPort url.port = .ok ported
  databasePart : Url.decodePart? .database url.database = .ok database
  query : (Url.pieces url).foldlM Config.setQuery { ported with database } = .ok config

theorem ofUrl_inv {url : Url} {config : Config} (accepted : Config.ofUrl url = .ok config) :
    ∃ user password host database ported, UrlParts url user password host database ported config := by
  obtain ⟨user, userDecoded, accepted⟩ := except_bind_inv accepted
  obtain ⟨password, -, accepted⟩ := except_bind_inv accepted
  obtain ⟨host, hostDecoded, accepted⟩ := except_bind_inv accepted
  obtain ⟨ported, port, accepted⟩ := except_bind_inv accepted
  obtain ⟨database, databaseDecoded, query⟩ := except_bind_inv accepted
  exact ⟨user, password, host, database, ported, userDecoded, hostDecoded, port, databaseDecoded, query⟩

theorem setPort_inv {config config' : Config} {fault : ParseError} {port? : Option (List Char)}
    (accepted : config.setPort fault port? = .ok config') :
    ∃ port : UInt16, config' = { config with port } := by
  unfold Config.setPort at accepted
  split at accepted
  · cases accepted
    exact ⟨config.port, rfl⟩
  · split at accepted <;> cases accepted
    exact ⟨_, rfl⟩

end PgSession.Proofs
