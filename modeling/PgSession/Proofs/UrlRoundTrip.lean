import PgSession.Proofs.HostAssignment
import PgSession.Proofs.UrlGrammar

/-!
Settings that are written as a url and read back. A part that is percent encoded holds no delimiter,
whatever text it stands for, so every part is found where it was put. The pairs of the query may be
mixed in any way, as long as the parameters keep their order.
-/

namespace PgSession.Proofs
open Text

/-- The characters that stand for themselves. -/
def unreserved (char : Char) : Bool := char.isAlphanum || ['-', '.', '_', '~'].contains char

def upperHexDigit (value : Nat) : Char :=
  if value < 10 then Char.ofNat (48 + value) else Char.ofNat (55 + value)

def percentByte (byte : UInt8) : List Char :=
  ['%', upperHexDigit (byte.toNat / 16), upperHexDigit (byte.toNat % 16)]

def percentEncodeChar (char : Char) : List Char :=
  if unreserved char then [char] else (encodeChar char).flatMap percentByte

def percentEncode (text : String) : List Char := text.toList.flatMap percentEncodeChar

private theorem hexValue?_upperHexDigit :
    ∀ value < 16, hexValue? (upperHexDigit value) = some value := by decide

private theorem unreserved_upperHexDigit : ∀ value < 16, unreserved
    (upperHexDigit value) = true := by decide

private theorem byte_digits (byte : UInt8) : byte.toNat / 16 < 16 ∧ byte.toNat % 16 < 16 := by
  have small := byte.toNat_lt
  omega

private theorem percentDecode_percentByte (byte : UInt8) (rest : List Char) :
    percentDecode (percentByte byte ++ rest) = byte :: percentDecode rest := by
  obtain ⟨high, low⟩ := byte_digits byte
  have whole : byte.toNat / 16 * 16 + byte.toNat % 16 = byte.toNat := by omega
  simp only [percentByte, List.cons_append, List.nil_append, percentDecode,
    hexValue?_upperHexDigit _ high, hexValue?_upperHexDigit _ low, whole, UInt8.ofNat_toNat]

private theorem percentDecode_flatMap (bytes : List UInt8) (rest : List Char) :
    percentDecode (bytes.flatMap percentByte ++ rest) = bytes ++ percentDecode rest := by
  induction bytes with
  | nil => rfl
  | cons byte bytes ih =>
    rw [List.flatMap_cons, List.append_assoc, percentDecode_percentByte, ih, List.cons_append]

private theorem percentDecode_cons {char : Char} (other : char ≠ '%') (rest : List Char) :
    percentDecode (char :: rest) = encodeChar char ++ percentDecode rest := by
  rw [percentDecode]
  exact fun _ _ _ same => absurd same other

private theorem percentDecode_percentEncodeChar (char : Char) (rest : List Char) :
    percentDecode (percentEncodeChar char ++ rest) = encodeChar char ++ percentDecode rest := by
  unfold percentEncodeChar
  split
  · next kept =>
    have other : char ≠ '%' := fun same => absurd (same ▸ kept) (by decide)
    exact percentDecode_cons other rest
  · exact percentDecode_flatMap (encodeChar char) rest

/-- What was encoded is decoded again. -/
theorem percentDecode_percentEncode (text : String) :
    percentDecode (percentEncode text) = utf8 text := by
  unfold percentEncode utf8
  induction text.toList with
  | nil => rfl
  | cons char chars ih =>
    rw [List.flatMap_cons, List.flatMap_cons, percentDecode_percentEncodeChar, ih]

private theorem mem_percentByte {byte : UInt8} {char : Char} (member : char ∈ percentByte byte) :
    unreserved char = true ∨ char = '%' := by
  obtain ⟨high, low⟩ := byte_digits byte
  simp only [percentByte, List.mem_cons, List.not_mem_nil, or_false] at member
  rcases member with rfl | rfl | rfl
  · exact .inr rfl
  · exact .inl (unreserved_upperHexDigit _ high)
  · exact .inl (unreserved_upperHexDigit _ low)

private theorem mem_percentEncode {text : String} {char : Char}
    (member : char ∈ percentEncode text) : unreserved char = true ∨ char = '%' := by
  obtain ⟨source, -, member⟩ := List.mem_flatMap.mp member
  unfold percentEncodeChar at member
  split at member
  · next kept =>
    rw [List.mem_singleton.mp member]
    exact .inl kept
  · obtain ⟨byte, -, member⟩ := List.mem_flatMap.mp member
    exact mem_percentByte member

/-- The characters at which a url is taken apart. -/
def delimiters : List Char := [':', '/', '?', '@', '[', '&', '=']

private theorem encoded_of_delimiter {char : Char} (delimiter : char ∈ delimiters) :
    unreserved char = false ∧ char ≠ '%' := by
  simp only [delimiters, List.mem_cons, List.not_mem_nil, or_false] at delimiter
  rcases delimiter with rfl | rfl | rfl | rfl | rfl | rfl | rfl <;> decide

private theorem delimiter_not_mem {char : Char} (delimiter : char ∈ delimiters) (text : String) :
    char ∉ percentEncode text := by
  obtain ⟨encoded, notPercent⟩ := encoded_of_delimiter delimiter
  intro member
  rcases mem_percentEncode member with kept | percent
  · exact absurd kept (Bool.eq_false_iff.mp encoded)
  · exact notPercent percent

private theorem delimiter_not_mem_toString {char : Char} (delimiter : char ∈ delimiters)
    (number : Nat) : char ∉ (toString number).toList := by
  intro member
  have digit := isDigit_toString number char member
  have encoded := (encoded_of_delimiter delimiter).1
  rw [unreserved, Char.isAlphanum, digit, Bool.or_true, Bool.true_or] at encoded
  cases encoded

private theorem not_mem_behind {char separator : Char} (delimiter : char ∈ delimiters)
    (other : char ≠ separator)
    (text? : Option String) : char ∉ behind separator (text?.map percentEncode) := by
  cases text? with
  | none => exact List.not_mem_nil
  | some text => exact List.not_mem_cons_of_ne_of_not_mem other (delimiter_not_mem delimiter text)

private theorem percentEncode_ne_nil {text : String} (some : text ≠ "") : percentEncode text ≠
    [] := by
  intro nothing
  have decoded := percentDecode_percentEncode text
  rw [nothing] at decoded
  exact some (utf8_injective decoded.symm)

theorem decodePart_percentEncode (part : UrlPart) (text : String) :
    Url.decodePart part (percentEncode text) = .ok text :=
  decodePart_iff.mpr (percentDecode_percentEncode text).symm

private theorem decodePart?_percentEncode (part : UrlPart) {text? : Option String}
    (some : ∀ text ∈ text?, text ≠ "") :
    Url.decodePart? part ((text?.map percentEncode).getD []) = .ok text? := by
  unfold Url.decodePart?
  cases text? with
  | none => rfl
  | some text =>
    rw [Option.map_some, Option.getD_some, decodePart_percentEncode]
    exact if_neg (mt List.isEmpty_iff.mp (percentEncode_ne_nil (some text rfl)))

/-- A parameter of the server can have every name that has no meaning of its own, as long as the name
does not end early. Names are not encoded. -/
structure PlainName (name : String) : Prop where
  ampersand : '&' ∉ name.toList
  equals : '=' ∉ name.toList
  other : name.toList ∉ reserved

inductive QueryPair where
  | sslMode (mode : SslMode)
  | timeout (seconds : UInt64)
  | parameter (name value : String)

namespace QueryPair

def name : QueryPair → List Char
  | .sslMode _ => sslModeName
  | .timeout _ => timeoutName
  | .parameter name _ => name.toList

def value : QueryPair → String
  | .sslMode mode => mode.name
  | .timeout seconds => toString seconds.toNat
  | .parameter _ value => value

def text (pair : QueryPair) : List Char := pair.name ++ '=' :: percentEncode pair.value

def mode? : QueryPair → Option SslMode
  | .sslMode mode => some mode
  | _ => none

def seconds? : QueryPair → Option UInt64
  | .timeout seconds => some seconds
  | _ => none

def parameter? : QueryPair → Option (String × String)
  | .parameter name value => some (name, value)
  | _ => none

def milliseconds (seconds : UInt64) : Nat := seconds.toNat * 1000

/-- What a pair changes. -/
def set (config : Config) : QueryPair → Config
  | .sslMode ssl => { config with ssl }
  | .timeout seconds => { config with timeout := milliseconds seconds }
  | .parameter name value => config.set (.parameter name value)

def Plain (pair : QueryPair) : Prop := ∀ parameter ∈ pair.parameter?, PlainName parameter.1

private theorem Plain.name_clear {pair : QueryPair} (plain : pair.Plain) :
    '&' ∉ pair.name ∧ '=' ∉ pair.name := by
  cases pair with
  | sslMode mode => exact (by decide : '&' ∉ sslModeName ∧ '=' ∉ sslModeName)
  | timeout seconds => exact (by decide : '&' ∉ timeoutName ∧ '=' ∉ timeoutName)
  | parameter name value => exact ⟨(plain (name, value) rfl).ampersand, (plain (name, value) rfl).equals⟩

private theorem Plain.text_clear {pair : QueryPair} (plain : pair.Plain) : '&' ∉ pair.text := by
  rw [text, List.mem_append, List.mem_cons, not_or, not_or]
  exact ⟨plain.name_clear.1, by decide, delimiter_not_mem (by decide) pair.value⟩

private theorem parse_name (mode : SslMode) :
    SslMode.parse mode.name = .ok mode := by cases mode <;> rfl

private theorem Plain.setQuery {pair : QueryPair} (plain : pair.Plain) (config : Config) :
    config.setQuery pair.text = .ok (set config pair) := by
  have split : Url.splitPair pair.text = .ok (pair.name, pair.value) :=
    splitPair_iff.mpr ⟨_, rfl, plain.name_clear.2, (percentDecode_percentEncode pair.value).symm⟩
  rw [setQuery_eq config split]
  cases pair with
  | sslMode mode =>
    rw [name, if_pos rfl, value, parse_name]
    rfl
  | timeout seconds =>
    have small : seconds.toNat < timeoutBound := seconds.toNat_lt
    rw [name, if_neg (by decide), if_neg (by decide), if_pos rfl, value, natural?_toString small]
    rfl
  | parameter name value =>
    have other := (plain (name, value) rfl).other
    rw [reserved, List.mem_cons, List.mem_cons, List.mem_singleton, not_or, not_or] at other
    obtain ⟨notMode, notHost, notTimeout⟩ := other
    rw [QueryPair.name, if_neg notMode, if_neg notHost, if_neg notTimeout, String.ofList_toList]
    rfl

private theorem foldlM_setQuery {pairs : List QueryPair} (plain : ∀ pair ∈ pairs, pair.Plain)
    (config : Config) :
    (pairs.map text).foldlM Config.setQuery config = .ok (pairs.foldl set config) := by
  induction pairs generalizing config with
  | nil => rfl
  | cons pair pairs ih =>
    obtain ⟨first, others⟩ := List.forall_mem_cons.mp plain
    rw [List.map_cons, List.foldlM_cons, first.setQuery]
    exact ih others (set config pair)

/-- The last mode and the last timeout hold, and every parameter is kept. -/
theorem foldl_set (pairs : List QueryPair) (config : Config) : pairs.foldl set config =
    { config with
      ssl := (pairs.filterMap mode?).getLast?.getD config.ssl
      timeout := ((pairs.filterMap seconds?).getLast?.map milliseconds).getD config.timeout
      parameters := config.parameters ++ pairs.filterMap parameter? } := by
  induction pairs generalizing config with
  | nil => simp
  | cons pair pairs ih =>
    rw [List.foldl_cons, ih]
    cases pair with
    | sslMode mode => simp only [set, List.filterMap_cons, mode?, seconds?, parameter?,
        List.getLast?_cons, Option.getD_some]
    | timeout seconds =>
      simp only [set, List.filterMap_cons, mode?, seconds?, parameter?, List.getLast?_cons,
        Option.map_some, Option.getD_some]
      rw [Option.getD_map]
    | parameter name value => simp only [set, Config.set, List.filterMap_cons, mode?, seconds?,
        parameter?, List.append_assoc, List.cons_append, List.nil_append]

end QueryPair

def queryText (pairs : List QueryPair) : List Char := ['&'].intercalate (pairs.map QueryPair.text)

private theorem pieces_queryText {url : Url} {pairs : List QueryPair}
    (plain : ∀ pair ∈ pairs, pair.Plain) (some : pairs ≠ []) (query : url.query = queryText pairs) :
    Url.pieces url = pairs.map QueryPair.text := by
  have clear : ∀ piece ∈ pairs.map QueryPair.text, '&' ∉ piece := by
    intro piece member
    obtain ⟨pair, listed, rfl⟩ := List.mem_map.mp member
    exact (plain pair listed).text_clear
  have full : ∀ piece ∈ pairs.map QueryPair.text, (!piece.isEmpty) = true := by
    intro piece member
    obtain ⟨pair, -, rfl⟩ := List.mem_map.mp member
    rw [QueryPair.text]
    simp
  rw [Url.pieces, splitAll_eq_splitOn, query, queryText,
    List.splitOn_intercalate '&' clear (mt List.map_eq_nil_iff.mp some)]
  exact List.filter_eq_self.mpr full

/-- What a url can say, other than by what it leaves out. -/
structure UrlSettings where
  user : String
  password : Option String
  host : String
  port : UInt16
  database : Option String
  ssl : SslMode
  seconds : UInt64
  parameters : List (String × String)
  userGiven : user ≠ ""
  passwordGiven : ∀ text ∈ password, text ≠ ""
  hostGiven : host ≠ ""
  databaseGiven : ∀ text ∈ database, text ≠ ""
  names : ∀ parameter ∈ parameters, PlainName parameter.1

/-- The mode and the timeout stand in the query once, and the parameters in their order. -/
structure Lists (pairs : List QueryPair) (settings : UrlSettings) : Prop where
  mode : pairs.filterMap QueryPair.mode? = [settings.ssl]
  seconds : pairs.filterMap QueryPair.seconds? = [settings.seconds]
  parameters : pairs.filterMap QueryPair.parameter? = settings.parameters

/-- How settings are made of the parts of a url that can be read. -/
theorem ofUrl_eq {url : Url} {user : String} {password host database : Option String} {ported : Config}
    (login : Url.decodePart .user url.user = .ok user)
    (secret : Url.decodePart? .password url.password = .ok password)
    (address : Url.decodePart? .host url.host = .ok host)
    (port : (Config.orElse host { user := if user = "" then Config.defaultUser else user, password }
      Config.setHost).setPort .invalidPort url.port = .ok ported)
    (path : Url.decodePart? .database url.database = .ok database) :
    Config.ofUrl url = (Url.pieces url).foldlM Config.setQuery { ported with database } := by
  unfold Config.ofUrl
  rw [login, secret, address, path]
  change (Config.setPort _ _ _ >>= fun config => _) = _
  rw [port]
  rfl

namespace UrlSettings

def scheme : List Char := "postgres".toList

/-- Only the names of parameters are not encoded. -/
def render (settings : UrlSettings) (pairs : List QueryPair) : String :=
  String.ofList (scheme ++ schemeEnd ++
    percentEncode settings.user ++ behind ':' (settings.password.map percentEncode) ++ '@' ::
    percentEncode settings.host ++ ':' :: (toString settings.port.toNat).toList ++
    behind '/' (settings.database.map percentEncode) ++ '?' :: queryText pairs)

/-- What is to be read from it. A socket leaves the host as it is by default. -/
def config (settings : UrlSettings) : Config where
  user := settings.user
  password := settings.password
  socket := if namesSocket settings.host then some settings.host else none
  host := if namesSocket settings.host then "localhost" else settings.host
  port := settings.port
  database := settings.database
  ssl := settings.ssl
  parameters := settings.parameters
  timeout := QueryPair.milliseconds settings.seconds

def spelling (settings : UrlSettings) (pairs : List QueryPair) : Spelling where
  scheme := scheme
  login := some ⟨percentEncode settings.user, settings.password.map percentEncode⟩
  address := .name (percentEncode settings.host) (some (toString settings.port.toNat).toList)
  path := settings.database.map percentEncode
  query := some (queryText pairs)

variable (settings : UrlSettings) {pairs : List QueryPair}

private theorem address_clear {char : Char} (delimiter : char ∈ delimiters) (other : char ≠ ':') :
    char ∉ (settings.spelling pairs).address.text := by
  refine List.not_mem_append (delimiter_not_mem delimiter settings.host) ?_
  exact List.not_mem_cons_of_ne_of_not_mem other (delimiter_not_mem_toString delimiter _)

private theorem authority_clear {char : Char} (delimiter : char ∈ delimiters) (notPort : char ≠ ':')
    (notLogin : char ≠ '@') : char ∉ (settings.spelling pairs).authority := by
  refine List.not_mem_append (List.not_mem_append (List.not_mem_append ?_ ?_) ?_) ?_
  · exact delimiter_not_mem delimiter settings.user
  · exact not_mem_behind delimiter notPort settings.password
  · exact mt List.mem_singleton.mp notLogin
  · exact settings.address_clear delimiter notPort

private theorem distinct : (settings.spelling pairs).Distinct where
  scheme := List.mem_cons_self
  user := by
    intro login same
    cases same
    exact delimiter_not_mem (by decide) settings.user
  address :=
    ⟨delimiter_not_mem (by decide) settings.host,
      mt List.mem_of_head? (delimiter_not_mem (by decide) settings.host)⟩
  login := settings.address_clear (by decide) (by decide)
  path := settings.authority_clear (by decide) (by decide) (by decide)
  query := List.not_mem_append (settings.authority_clear (by decide) (by decide) (by decide))
    (not_mem_behind (by decide) (by decide) settings.database)

theorem spelled : Spelled (settings.render pairs) (settings.spelling pairs) := by
  refine ⟨settings.distinct, .trans ?_ String.toList_ofList.symm⟩
  simp only [Spelling.text, Spelling.rest, Spelling.authority, spelling, loginText, Login.text,
    Address.text, behind, List.append_assoc, List.cons_append, List.nil_append]

private theorem setPort (config : Config) (fault : ParseError) :
    config.setPort fault (some (toString settings.port.toNat).toList) =
      .ok { config with port := settings.port } := by
  have small : settings.port.toNat < 65536 := settings.port.toNat_lt
  unfold Config.setPort
  simp only [natural?_toString small, UInt16.ofNat_toNat]

/-- What the url says before its query. -/
def located (settings : UrlSettings) : Config :=
  { settings.config with ssl := .disable, parameters := [], timeout := 30000 }

private theorem setHost_located : Config.setHost
    { user := settings.user, password := settings.password }
    settings.host = { settings.located with port := 5432, database := none } := by
  change (if namesSocket settings.host then _ else _) = _
  unfold located config
  cases namesSocket settings.host <;> rfl

private theorem setPort_located : (Config.orElse (some settings.host)
    { user := if settings.user = "" then Config.defaultUser else settings.user,
      password := settings.password } Config.setHost).setPort .invalidPort
        (settings.spelling pairs).url.port = .ok { settings.located with database := none } := by
  rw [if_neg settings.userGiven, Config.orElse, setHost_located]
  exact settings.setPort _ _

theorem ofUrl_spelling : Config.ofUrl (settings.spelling pairs).url =
    (Url.pieces (settings.spelling pairs).url).foldlM Config.setQuery settings.located := by
  have given : ∀ text ∈ some settings.host, text ≠ "" := by
    rintro text ⟨⟩
    exact settings.hostGiven
  have login : Url.decodePart .user (settings.spelling pairs).url.user = .ok settings.user :=
    decodePart_percentEncode .user settings.user
  have address : Url.decodePart? .host (settings.spelling pairs).url.host = .ok settings.host :=
    decodePart?_percentEncode .host given
  have path : Url.decodePart? .database (settings.spelling pairs).url.database = .ok settings.database :=
    decodePart?_percentEncode .database settings.databaseGiven
  exact ofUrl_eq login (decodePart?_percentEncode .password settings.passwordGiven) address
    settings.setPort_located path

/-- Settings come back from every url that lists them. -/
theorem parse_render (lists : Lists pairs settings) :
    Config.parse (settings.render pairs) = .ok settings.config := by
  have plain : ∀ pair ∈ pairs, pair.Plain := by
    intro pair member parameter same
    refine settings.names parameter ?_
    rw [← lists.parameters]
    exact List.mem_filterMap.mpr ⟨pair, member, same⟩
  have some : pairs ≠ [] := by
    rintro rfl
    exact absurd lists.mode nofun
  rw [parse_spelled settings.spelled, ofUrl_spelling, pieces_queryText plain some rfl,
    QueryPair.foldlM_setQuery plain, QueryPair.foldl_set, lists.mode, lists.seconds, lists.parameters]
  rfl

end UrlSettings

private def thorny : UrlSettings where
  user := "zoë@b:c"
  password := some "p/?#%"
  host := "/run/pg"
  port := 0
  database := some "a&b="
  ssl := .require
  seconds := 18446744073709551615
  parameters := [("", ""), ("a/b?@", "=&+")]
  userGiven := by decide
  passwordGiven := by decide
  hostGiven := by decide
  databaseGiven := by decide
  names := by
    rw [List.forall_mem_cons, List.forall_mem_singleton]
    exact ⟨⟨by decide, by decide, by decide⟩, ⟨by decide, by decide, by decide⟩⟩

private def thornyPairs : List QueryPair :=
  [.parameter "" "", .timeout 18446744073709551615, .parameter "a/b?@" "=&+", .sslMode .require]

private def thornyUrl : String :=
  "postgres://zo%C3%AB%40b%3Ac:p%2F%3F%23%25@%2Frun%2Fpg:0/a%26b%3D" ++
    "?=&connect_timeout=18446744073709551615&a/b?@=%3D%26%2B&sslmode=require"

/-- A socket, and parts that would be cut short if they were not encoded. -/
theorem parse_render_thorny : Lists thornyPairs thorny ∧ thorny.render thornyPairs = thornyUrl ∧
    Config.parse thornyUrl = .ok
      { user := "zoë@b:c", password := some "p/?#%", socket := some "/run/pg", port := 0,
        database := some "a&b=", ssl := .require, parameters := [("", ""), ("a/b?@", "=&+")],
        timeout := 18446744073709551615000 } := by
  have lists : Lists thornyPairs thorny := ⟨rfl, rfl, rfl⟩
  have rendered : thorny.render thornyPairs = thornyUrl := by decide +kernel
  exact ⟨lists, rendered, rendered ▸ thorny.parse_render lists⟩

end PgSession.Proofs
