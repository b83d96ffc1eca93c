import PgSession.Proofs.BodyReaders
import PgSession.Proofs.BufferReading
import PgSession.Proofs.Frames
import PgSession.Proofs.HostAssignment
import PgSession.Proofs.TextRoundTrip
import PgSession.Session.Handshake

/-!
What a server makes of a startup message. It takes as many bytes as the message says it has, and in
them a version, then names and values that each end at a zero byte, up to an empty name. It reads
the pairs the client meant exactly if none of them holds a zero byte and no name is empty. Urls may
hold both: an encoded zero byte in a user is enough for a server to see another user, and settings
nobody wrote down.
-/

namespace PgSession.Proofs
open Text Wire Session

/-- A name and a value, as they are on the wire. -/
abbrev Pair := List UInt8 × List UInt8

private theorem splitZero_shorter {bytes before after : List UInt8}
    (found : Reader.splitZero bytes = some (before, after)) : after.length < bytes.length := by
  rw [Reader.splitZero_eq found, List.length_append, List.length_cons]
  omega

/-- Names and values up to an empty name, and what is behind it. -/
def readPairs (bytes : List UInt8) : Option (List Pair × List UInt8) :=
  match _ : Reader.splitZero bytes with
  | none => none
  | some (name, more) =>
    if name.isEmpty then some ([], more)
    else match _ : Reader.splitZero more with
    | none => none
    | some (value, rest) => (readPairs rest).map fun (pairs, rest) => ((name, value) :: pairs, rest)
termination_by bytes.length
decreasing_by
  have shorter := splitZero_shorter ‹Reader.splitZero bytes = _›
  exact Nat.lt_trans (splitZero_shorter ‹_›) shorter

/-- A version and pairs, with nothing behind the empty name that ends them. -/
def readAnnounced (body : List UInt8) : Option (Int32 × List Pair) :=
  match Reader.int32 body with
  | .error _ _ => none
  | .ok version listed =>
    match readPairs listed with
    | some (pairs, []) => some (version, pairs)
    | _ => none

/-- The bytes behind the message stay in the stream. -/
def readStartup (stream : List UInt8) : Option ((Int32 × List Pair) × List UInt8) :=
  match (do Reader.take ((← Reader.int32).toInt.toNat - 4) : Reader (List UInt8)) stream with
  | .error _ _ => none
  | .ok body rest => (readAnnounced body).map (·, rest)

/-- Pairs that can be told apart again. -/
def Clear (pairs : List Pair) : Prop :=
  ∀ pair ∈ pairs, pair.1 ≠ [] ∧ 0 ∉ pair.1 ∧ 0 ∉ pair.2

instance (pairs : List Pair) : Decidable (Clear pairs) :=
  inferInstanceAs (Decidable (∀ pair ∈ pairs, _))

def listing (pairs : List Pair) : List UInt8 :=
  pairs.flatMap fun pair => pair.1 ++ 0 :: (pair.2 ++ [0])

private theorem listing_cons (pair : Pair) (pairs : List Pair) (rest : List UInt8) :
    listing (pair :: pairs) ++ rest = pair.1 ++ 0 :: (pair.2 ++ 0 :: (listing pairs ++ rest)) := by
  simp [listing]

private theorem readPairs_listing {pairs : List Pair} (clear : Clear pairs) (rest : List UInt8) :
    readPairs (listing pairs ++ 0 :: rest) = some (pairs, rest) := by
  induction pairs with
  | nil =>
    rw [readPairs]
    rfl
  | cons pair pairs ih =>
    obtain ⟨named, nameFree, valueFree⟩ := clear pair List.mem_cons_self
    have later := ih fun other member => clear other (List.mem_cons_of_mem _ member)
    rw [listing_cons, readPairs]
    split
    · next none =>
      rw [splitZero_append nameFree] at none
      cases none
    · next name more found =>
      rw [splitZero_append nameFree] at found
      cases found
      rw [if_neg (mt List.isEmpty_iff.mp named)]
      split
      · next none =>
        rw [splitZero_append valueFree] at none
        cases none
      · next value rest' found =>
        rw [splitZero_append valueFree] at found
        cases found
        rw [later]
        rfl

private theorem readPairs_inv {bytes rest : List UInt8} {pairs : List Pair}
    (read : readPairs bytes = some (pairs, rest)) :
    bytes = listing pairs ++ 0 :: rest ∧ Clear pairs := by
  fun_induction readPairs bytes generalizing pairs rest with
  | case1 => cases read
  | case2 bytes name more named empty =>
    cases read
    rw [Reader.splitZero_eq named, List.isEmpty_iff.mp empty]
    exact ⟨rfl, nofun⟩
  | case3 => cases read
  | case4 bytes name more named nonempty value more' valued ih =>
    obtain ⟨⟨others, left⟩, later, equal⟩ := Option.map_eq_some_iff.mp read
    cases equal
    obtain ⟨same, clear⟩ := ih later
    constructor
    · rw [listing_cons, ← same, ← Reader.splitZero_eq valued]
      exact Reader.splitZero_eq named
    · rintro pair (_ | ⟨_, member⟩)
      · exact ⟨mt List.isEmpty_iff.mpr nonempty, splitZero_free named, splitZero_free valued⟩
      · exact clear pair member

theorem readPairs_iff {bytes rest : List UInt8} {pairs : List Pair} :
    readPairs bytes = some (pairs, rest) ↔ bytes = listing pairs ++ 0 :: rest ∧ Clear pairs :=
  ⟨readPairs_inv, fun ⟨same, clear⟩ => same ▸ readPairs_listing clear rest⟩

def pair (name value : String) : Pair := (utf8 name, utf8 value)

/-- The pairs a client means to be read. -/
def meant (user : String) (database : Option String) (parameters : List (String × String)) :
    List Pair :=
  pair "user" user :: ((database.map (pair "database")).toList ++
    parameters.map fun parameter => pair parameter.1 parameter.2)

def startupBody (version : Int32) (pairs : List Pair) : List UInt8 :=
  int32 version ++ (listing pairs ++ [0])

section

variable {version : Int32} {user : String} {database : Option String}
  {parameters : List (String × String)}

private theorem encodeAll_pairs {α : Type} {items : α → List Item} {pair : α → Pair}
    (each : ∀ element, Item.encodeAll (items element) = listing [pair element]) (elements : List α) :
    Item.encodeAll (elements.flatMap items) = listing (elements.map pair) := by
  induction elements with
  | nil => rfl
  | cons element elements ih =>
    rw [List.flatMap_cons, encodeAll_append, each, ih]
    simp [listing]

private theorem encoded_startup (version : Int32) (user : String) (database : Option String)
    (parameters : List (String × String)) : encoded (.startup version user database parameters) =
    word (4 + (startupBody version (meant user database parameters)).length) ++
      startupBody version (meant user database parameters) := by
  have each (parameter : String × String) :
      Item.encodeAll [.text parameter.1, .text parameter.2] =
        listing [pair parameter.1 parameter.2] := by
    simp [Item.encodeAll, Item.encode, listing, pair]
  have optional : Item.encodeAll ((database.map fun name => [.text "database", .text name]).getD []) =
      listing (database.map (pair "database")).toList := by
    cases database with
    | none => rfl
    | some name => exact each ("database", name)
  have body : Item.encodeAll (.int32 version :: [.text "user", .text user] ++
      (database.map fun name => [.text "database", .text name]).getD [] ++
      parameters.flatMap (fun parameter => [.text parameter.1, .text parameter.2]) ++ [.byte 0]) =
        startupBody version (meant user database parameters) := by
    have first : Item.encodeAll (.int32 version :: [.text "user", .text user]) =
        int32 version ++ listing [pair "user" user] :=
      congrArg (int32 version ++ ·) (each ("user", user))
    rw [encodeAll_append, encodeAll_append, encodeAll_append, optional, encodeAll_pairs each, first]
    simp [startupBody, meant, listing, Item.encodeAll, Item.encode]
  change (word (4 + (Item.encodeAll _).length) ++ Item.encodeAll _) ++ [] = _
  rw [List.append_nil, ← body]
  rfl

theorem readAnnounced_iff {body : List UInt8} {pairs : List Pair} :
    readAnnounced body = some (version, pairs) ↔ body = startupBody version pairs ∧ Clear pairs := by
  unfold readAnnounced startupBody
  constructor
  · intro read
    split at read
    · cases read
    · next found listed number =>
      split at read
      · next found pairs =>
        cases read
        obtain ⟨rfl, clear⟩ := readPairs_iff.mp pairs
        exact ⟨int32_ok_iff.mp number, clear⟩
      · cases read
  · rintro ⟨rfl, clear⟩
    rw [int32_ok_iff.mpr rfl]
    simp only [readPairs_iff.mpr ⟨rfl, clear⟩]

private theorem readStartup_word {body : List UInt8} (fits : 4 + body.length ≤ Buffer.maxLength)
    (rest : List UInt8) :
    readStartup (word (4 + body.length) ++ (body ++ rest)) = (readAnnounced body).map (·, rest) := by
  obtain ⟨first, second, third, fourth, same⟩ :
      ∃ first second third fourth, word (4 + body.length) = [first, second, third, fourth] :=
    ⟨_, _, _, _, rfl⟩
  have length : Reader.int32 (word (4 + body.length) ++ (body ++ rest)) =
      .ok (int32Value first second third fourth) (body ++ rest) := by
    rw [same]
    rfl
  have taken : Reader.take ((int32Value first second third fourth).toInt.toNat - 4) (body ++ rest) =
      .ok body rest := by
    rw [length_of_word fits same, Int.toNat_natCast, Nat.add_sub_cancel_left]
    exact take_ok_iff.mpr ⟨rfl, rfl⟩
  unfold readStartup
  rw [bind_ok length, taken]

private theorem startup_fits (sendable : Sendable (.startup version user database parameters)) :
    4 + (startupBody version (meant user database parameters)).length ≤ Buffer.maxLength := by
  simp only [Sendable, FrontendMessage.items, fitsAll, Item.fits, Bool.and_eq_true,
    decide_eq_true_eq] at sendable
  have same := congrArg List.length (encoded_startup version user database parameters)
  simp only [encoded, FrontendMessage.items, Item.encodeAll, Item.encode, List.length_append,
    List.length_nil, word_length] at same
  omega

/-- A server reads what was meant exactly if it can be told apart. -/
theorem readStartup_encoded_iff
    (sendable : Sendable (.startup version user database parameters)) (rest : List UInt8) :
    readStartup (encoded (.startup version user database parameters) ++ rest) =
        some ((version, meant user database parameters), rest) ↔
      Clear (meant user database parameters) := by
  rw [encoded_startup, List.append_assoc, readStartup_word (startup_fits sendable)]
  constructor
  · intro read
    obtain ⟨announced, body, same⟩ := Option.map_eq_some_iff.mp read
    cases same
    exact (readAnnounced_iff.mp body).2
  · intro clear
    rw [readAnnounced_iff.mpr ⟨rfl, clear⟩]
    rfl

end

/-- The pair for the server that a piece of a query is, if it is one. -/
def piecePairs (piece : List Char) : List Pair :=
  match splitFirst '=' piece with
  | none => []
  | some (name, value) =>
    if name ∈ reserved then [] else [(name.flatMap encodeChar, percentDecode value)]

/-- What a url tells the server: its user or the default one, its database if it has one, and the
pieces of its query that are no settings of the client. -/
def Url.pairs (url : Url) : List Pair :=
  let user := percentDecode url.user
  (utf8 "user", if user = [] then utf8 Config.defaultUser else user) ::
    ((if url.database.isEmpty then [] else [(utf8 "database", percentDecode url.database)]) ++
      (Url.pieces url).flatMap piecePairs)

/-- The settings of a session that tells the server these parameters. -/
structure Tells (user : String) (database : Option String) (parameters : List Pair)
    (config : Config) : Prop where
  user : config.user = user
  database : config.database = database
  version : config.protocolVersion = protocolVersion3
  parameters : config.parameters.map (fun parameter => pair parameter.1 parameter.2) = parameters

namespace Tells

variable {user : String} {database : Option String} {parameters : List Pair} {config : Config}

private theorem setHost (tells : Tells user database parameters config) (host : String) :
    Tells user database parameters (config.setHost host) := by
  obtain ⟨same, name, version, list⟩ := tells
  unfold Config.setHost
  split <;> exact ⟨same, name, version, list⟩

private theorem setPort {config' : Config} {fault : ParseError} {port? : Option (List Char)}
    (tells : Tells user database parameters config)
    (accepted : config.setPort fault port? = .ok config') :
    Tells user database parameters config' := by
  obtain ⟨port, rfl⟩ := setPort_inv accepted
  exact ⟨tells.user, tells.database, tells.version, tells.parameters⟩

private theorem setQuery {config' : Config} {piece : List Char}
    (tells : Tells user database parameters config) (accepted : config.setQuery piece = .ok config') :
    Tells user database (parameters ++ piecePairs piece) config' := by
  obtain ⟨name, value, read, queried⟩ := setQuery_inv accepted
  obtain ⟨raw, split, decoded⟩ := splitPair_inv read
  have ⟨same, database, version, list⟩ := tells
  rw [piecePairs, split]
  dsimp only
  cases queried with
  | sslMode named ssl =>
    rw [named, if_pos (by decide), List.append_nil]
    exact ⟨same, database, version, list⟩
  | host named =>
    rw [named, if_pos (by decide), List.append_nil]
    exact tells.setHost value
  | timeout named timeout =>
    rw [named, if_pos (by decide), List.append_nil]
    exact ⟨same, database, version, list⟩
  | parameter other =>
    refine ⟨same, database, version, ?_⟩
    rw [if_neg other, ← list, ← utf8_decodePart decoded, Config.set, List.map_append]
    rw [List.map_singleton, pair, utf8, String.toList_ofList]

end Tells

theorem ofUrl_tells {url : Url} {config : Config} (accepted : Config.ofUrl url = .ok config) :
    config.protocolVersion = protocolVersion3 ∧
      meant config.user config.database config.parameters = Url.pairs url := by
  obtain ⟨user, password, host, database, ported, parts⟩ := ofUrl_inv accepted
  let login : Config := { user := if user = "" then Config.defaultUser else user, password }
  have start : Tells login.user none [] login := ⟨rfl, rfl, rfl, rfl⟩
  have hosted : Tells login.user none [] (Config.orElse host login Config.setHost) := by
    cases host with
    | none => exact start
    | some host => exact start.setHost host
  have placed := hosted.setPort parts.port
  have complete : Tells login.user database [] { ported with database } :=
    ⟨placed.user, rfl, placed.version, placed.parameters⟩
  have tells := foldlM_setQuery complete Tells.setQuery parts.query
  refine ⟨tells.version, ?_⟩
  rw [meant, tells.user, tells.database, tells.parameters, Url.pairs, List.nil_append]
  have named : utf8 login.user = if percentDecode url.user = [] then utf8 Config.defaultUser
      else percentDecode url.user := by
    have nothing : utf8 "" = [] := rfl
    rw [← utf8_decodePart parts.userPart]
    by_cases empty : user = ""
    · rw [show login.user = Config.defaultUser from if_pos empty, empty, if_pos nothing]
    · have other : utf8 user ≠ [] := fun none => empty (utf8_injective (none.trans nothing.symm))
      rw [show login.user = user from if_neg empty, if_neg other]
  have stored : (database.map (pair "database")).toList =
      if url.database.isEmpty then [] else [(utf8 "database", percentDecode url.database)] := by
    have decoded := decodePart?_inv parts.databasePart
    split at decoded
    · next none =>
      rw [Option.map_eq_none_iff.mp decoded, if_pos none]
      rfl
    · next some =>
      obtain ⟨name, rfl, same⟩ := Option.map_eq_some_iff.mp decoded
      rw [if_neg some, ← same]
      rfl
  rw [stored, pair, named]

/-- What a url tells the server. -/
def textPairs (text : String) : List Pair :=
  match Url.ofText text.toList with
  | .ok url => Url.pairs url
  | .error _ => []

private theorem parse_tells {text : String} {config : Config}
    (accepted : Config.parse text = .ok config) : config.protocolVersion = protocolVersion3 ∧
      meant config.user config.database config.parameters = textPairs text := by
  obtain ⟨url, found, accepted⟩ := except_bind_inv accepted
  rw [textPairs, found]
  exact ofUrl_tells accepted

/-- The bytes a client puts on the wire for a message, if it can be written at all. -/
def sent (message : FrontendMessage) (buffer : Buffer) : Option (List UInt8) :=
  match (do message.write; Buffer.chunk : Buffer.Action (List UInt8)) buffer with
  | .ok bytes _ => some bytes
  | .error _ _ => none

theorem sent_eq {message : FrontendMessage} {buffer : Buffer} (sound : Sound buffer) :
    sent message buffer = if Sendable message then some (encoded message) else none := by
  unfold sent
  by_cases sendable : Sendable message
  · obtain ⟨filled, wrote, holds⟩ := write_sendable sound sendable
    rw [if_pos sendable, bind_ok wrote, holds.chunk]
  · obtain ⟨stopped, crashed, -⟩ := write_not_sendable sound sendable
    rw [if_neg sendable, bind_error crashed]

/-- A server reads what the url of a client told it exactly if that can be told apart. -/
theorem startup_of_url {text : String} {config : Config} (accepted : Config.parse text = .ok config)
    {buffer : Buffer} (sound : Sound buffer) (rest : List UInt8) :
    meant config.user config.database config.parameters = textPairs text ∧
      ((sent (startupMessage config) buffer).bind (fun bytes => readStartup (bytes ++ rest)) =
          some ((protocolVersion3, textPairs text), rest) ↔
        Sendable (startupMessage config) ∧ Clear (textPairs text)) := by
  obtain ⟨version, same⟩ := parse_tells accepted
  refine ⟨same, ?_⟩
  rw [sent_eq sound]
  by_cases sendable : Sendable (startupMessage config)
  · rw [if_pos sendable, Option.bind_some, ← same, ← version]
    rw [startupMessage] at sendable ⊢
    rw [readStartup_encoded_iff sendable]
    exact (and_iff_right sendable).symm
  · rw [if_neg sendable]
    exact iff_of_false nofun fun both => sendable both.1

private def plainUrl : String := "postgres://alice@localhost/app?application_name=psql%20shell"

private def plainConfig : Config :=
  { user := "alice", database := some "app", parameters := [("application_name", "psql shell")] }

private def smugglingUrl : String := "postgres://alice%00database%00admin@localhost/app"

private def smugglingConfig : Config :=
  { user := "alice\u0000database\u0000admin", database := some "app" }

/-- A url with parameters of its own, and a url whose user contains zero bytes. -/
theorem startup_of_url_plain :
    Config.parse plainUrl = .ok plainConfig ∧
      (sent (startupMessage plainConfig) (.new 8192)).bind (fun bytes => readStartup (bytes ++ [])) =
        some ((protocolVersion3, [pair "user" "alice", pair "database" "app",
          pair "application_name" "psql shell"]), []) := by
  have accepted : Config.parse plainUrl = .ok plainConfig := except_of_toOption (by decide +kernel)
  have told : textPairs plainUrl = [pair "user" "alice", pair "database" "app",
      pair "application_name" "psql shell"] := by decide +kernel
  have read := (startup_of_url accepted (Sound.new 8192) []).2.mpr
    ⟨by decide +kernel, by decide +kernel⟩
  exact ⟨accepted, told ▸ read⟩

/-- A server is told of another user and of another database than the url names. -/
theorem user_smuggles_database :
    Config.parse smugglingUrl = .ok smugglingConfig ∧
      (sent (startupMessage smugglingConfig) (.new 8192)).bind readStartup =
        some ((protocolVersion3, [pair "user" "alice", pair "database" "admin",
          pair "database" "app"]), []) ∧
      textPairs smugglingUrl =
        [pair "user" "alice\u0000database\u0000admin", pair "database" "app"] :=
  ⟨except_of_toOption (by decide +kernel), by decide +kernel, by decide +kernel⟩

end PgSession.Proofs
