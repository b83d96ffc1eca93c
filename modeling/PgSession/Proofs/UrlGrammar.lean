import PgSession.Proofs.Numbers
import PgSession.Proofs.UrlSpelling

/-!
Which texts are accepted as urls: those that have a spelling and whose parts can all be read. One part
is never read. Text behind the bracket that closes a host is dropped if it announces no port, so a
port without its colon goes unnoticed.
-/

namespace PgSession.Proofs
open Text

/-- The bytes that a part stands for are a text. -/
def Decodes (part : List Char) : Prop := ∃ text : String, utf8 text = percentDecode part

def sslModeValues : List String :=
  ["disable", "allow", "prefer", "require", "verify-ca", "verify-full"]

def timeoutBound : Nat := 18446744073709551616

/-- Two names do not take every value. -/
structure Allowed (name : List Char) (value : String) : Prop where
  sslMode : name = sslModeName → value ∈ sslModeValues
  timeout : name = timeoutName → ∃ seconds < timeoutBound, Decimal value.toList seconds

/-- A name up to the first equals sign, and a value for it. -/
def Settles (piece : List Char) : Prop :=
  ∃ name raw value, piece = name ++ '=' :: raw ∧ '=' ∉ name ∧ utf8 value = percentDecode raw ∧
    Allowed name value

/-- The parts of a url that can be read. A part that is missing can. -/
structure Readable (url : Url) : Prop where
  user : Decodes url.user
  password : Decodes url.password
  host : Decodes url.host
  port : ∀ port ∈ url.port, ∃ number < 65536, Decimal port number
  database : Decodes url.database
  query : ∀ piece ∈ url.query.splitOn '&', piece ≠ [] → Settles piece

theorem except_bind_ok_iff {ε α β : Type} {first : Except ε α} {next : α → Except ε β} :
    (∃ value, (first >>= next) = .ok value) ↔
      ∃ middle, first = .ok middle ∧ ∃ value, next middle = .ok value := by
  constructor
  · rintro ⟨value, ran⟩
    obtain ⟨middle, first, next⟩ := except_bind_inv ran
    exact ⟨middle, first, value, next⟩
  · rintro ⟨middle, rfl, value, next⟩
    exact ⟨value, next⟩

theorem decodePart_iff {part : UrlPart} {text : List Char} {decoded : String} :
    Url.decodePart part text = .ok decoded ↔ utf8 decoded = percentDecode text := by
  refine ⟨utf8_decodePart, fun same => ?_⟩
  unfold Url.decodePart
  rw [← same, decodeUtf8_utf8]

private theorem decodePart?_ok_iff {part : UrlPart} {text : List Char} :
    (∃ decoded?, Url.decodePart? part text = .ok decoded?) ↔ Decodes text := by
  unfold Url.decodePart?
  split
  · next empty =>
    rw [List.isEmpty_iff.mp empty]
    exact iff_of_true ⟨none, rfl⟩ ⟨"", rfl⟩
  · constructor
    · rintro ⟨decoded?, read⟩
      cases found : Url.decodePart part text with
      | ok decoded => exact ⟨decoded, decodePart_iff.mp found⟩
      | error error =>
        rw [found] at read
        cases read
    · rintro ⟨decoded, same⟩
      rw [decodePart_iff.mpr same]
      exact ⟨some decoded, rfl⟩

theorem setPort_ok_iff {config : Config} {fault : ParseError} {port? : Option (List Char)} :
    (∃ config', config.setPort fault port? = .ok config') ↔
      ∀ port ∈ port?, ∃ number < 65536, Decimal port number := by
  cases port? with
  | none => exact iff_of_true ⟨config, rfl⟩ nofun
  | some port =>
    simp only [Option.mem_def, Option.some.injEq, forall_eq']
    unfold Config.setPort
    dsimp only
    cases found : natural? 65536 port with
    | none =>
      refine iff_of_false nofun ?_
      rintro ⟨number, small, decimal⟩
      rw [natural?_iff.mpr ⟨decimal, small⟩] at found
      cases found
    | some number =>
      obtain ⟨decimal, small⟩ := natural?_iff.mp found
      exact iff_of_true ⟨_, rfl⟩ ⟨number, small, decimal⟩

theorem splitPair_iff {piece name : List Char} {value : String} :
    Url.splitPair piece = .ok (name, value) ↔
      ∃ raw, piece = name ++ '=' :: raw ∧ '=' ∉ name ∧ utf8 value = percentDecode raw := by
  constructor
  · intro accepted
    obtain ⟨raw, split, decoded⟩ := splitPair_inv accepted
    rcases exists_first piece '=' with free | ⟨before, after, rfl, free⟩
    · rw [splitFirst_none free] at split
      cases split
    · rw [splitFirst_append free] at split
      cases split
      exact ⟨raw, rfl, free, decodePart_iff.mp decoded⟩
  · rintro ⟨raw, rfl, free, same⟩
    unfold Url.splitPair
    simp only [splitFirst_append free, decodePart_iff.mpr same]
    rfl

theorem sslMode_ok_iff {text : String} :
    (∃ mode, SslMode.parse text = .ok mode) ↔ text ∈ sslModeValues := by
  have values : text ∈ sslModeValues ↔ text = "disable" ∨ (text = "allow" ∨ text = "prefer") ∨
      text = "require" ∨ text = "verify-ca" ∨ text = "verify-full" := by
    simp only [sslModeValues, List.mem_cons, List.not_mem_nil, or_false, or_assoc]
  rw [values]
  unfold SslMode.parse
  split
  · next known => exact iff_of_true ⟨_, rfl⟩ (.inl known)
  split
  · next known => exact iff_of_true ⟨_, rfl⟩ (.inr (.inl known))
  split
  · next known => exact iff_of_true ⟨_, rfl⟩ (.inr (.inr known))
  · next notDisabled notPreferred notRequired =>
    exact iff_of_false nofun (not_or.mpr ⟨notDisabled, not_or.mpr ⟨notPreferred, notRequired⟩⟩)

theorem setQuery_eq (config : Config) {piece name : List Char} {value : String}
    (split : Url.splitPair piece = .ok (name, value)) : config.setQuery piece =
      if name = sslModeName then (SslMode.parse value).map fun ssl => { config with ssl }
      else if name = hostName then .ok (config.setHost value)
      else if name = timeoutName then
        match natural? timeoutBound value.toList with
        | some seconds => .ok { config with timeout := seconds * 1000 }
        | none => .error .invalidTimeout
      else .ok (config.set (.parameter (String.ofList name) value)) := by
  unfold Config.setQuery
  rw [split]
  change (if name = sslModeName then _ else if name = hostName then _ else
    if name = timeoutName then _ else _) = _
  congr 1

private theorem allowed_sslMode {value : String} :
    Allowed sslModeName value ↔ value ∈ sslModeValues :=
  ⟨fun allowed => allowed.sslMode rfl, fun known => ⟨fun _ => known, fun same => absurd same (by decide)⟩⟩

private theorem allowed_timeout {value : String} :
    Allowed timeoutName value ↔ ∃ seconds < timeoutBound, Decimal value.toList seconds :=
  ⟨fun allowed => allowed.timeout rfl, fun number => ⟨fun same => absurd same (by decide), fun _ => number⟩⟩

private theorem allowed_other {name : List Char} (notMode : name ≠ sslModeName)
    (notTimeout : name ≠ timeoutName) (value : String) : Allowed name value :=
  ⟨fun same => absurd same notMode, fun same => absurd same notTimeout⟩

private theorem setQuery_ok_iff_allowed {config : Config} {piece name : List Char} {value : String}
    (split : Url.splitPair piece = .ok (name, value)) :
    (∃ config', config.setQuery piece = .ok config') ↔ Allowed name value := by
  rw [setQuery_eq config split]
  split
  · next named =>
    subst named
    rw [allowed_sslMode, ← sslMode_ok_iff]
    cases SslMode.parse value with
    | ok mode => exact iff_of_true ⟨_, rfl⟩ ⟨mode, rfl⟩
    | error error => exact iff_of_false nofun nofun
  next notMode =>
  split
  · next named => exact iff_of_true ⟨_, rfl⟩ (allowed_other notMode (named ▸ by decide) value)
  split
  · next named =>
    subst named
    rw [allowed_timeout]
    cases found : natural? timeoutBound value.toList with
    | some seconds =>
      obtain ⟨decimal, small⟩ := natural?_iff.mp found
      exact iff_of_true ⟨_, rfl⟩ ⟨seconds, small, decimal⟩
    | none =>
      refine iff_of_false nofun ?_
      rintro ⟨seconds, small, decimal⟩
      rw [natural?_iff.mpr ⟨decimal, small⟩] at found
      cases found
  · next notTimeout => exact iff_of_true ⟨_, rfl⟩ (allowed_other notMode notTimeout value)

theorem setQuery_ok_iff {config : Config} {piece : List Char} :
    (∃ config', config.setQuery piece = .ok config') ↔ Settles piece := by
  constructor
  · rintro ⟨config', accepted⟩
    obtain ⟨name, value, split, -⟩ := setQuery_inv accepted
    obtain ⟨raw, same, free, decoded⟩ := splitPair_iff.mp split
    exact ⟨name, raw, value, same, free, decoded, (setQuery_ok_iff_allowed split).mp ⟨config', accepted⟩⟩
  · rintro ⟨name, raw, value, same, free, decoded, allowed⟩
    exact (setQuery_ok_iff_allowed (splitPair_iff.mpr ⟨raw, same, free, decoded⟩)).mpr allowed

private theorem foldlM_ok_iff {ε σ α : Type} {step : σ → α → Except ε σ} {Good : α → Prop}
    (each : ∀ state element, (∃ state', step state element = .ok state') ↔ Good element)
    {elements : List α} {state : σ} :
    (∃ state', elements.foldlM step state = .ok state') ↔ ∀ element ∈ elements, Good element := by
  induction elements generalizing state with
  | nil => exact iff_of_true ⟨state, rfl⟩ nofun
  | cons element elements ih =>
    rw [List.foldlM_cons, except_bind_ok_iff, List.forall_mem_cons]
    constructor
    · rintro ⟨middle, first, rest⟩
      exact ⟨(each _ _).mp ⟨middle, first⟩, ih.mp rest⟩
    · rintro ⟨good, others⟩
      obtain ⟨middle, first⟩ := (each state element).mpr good
      exact ⟨middle, first, ih.mpr others⟩

private theorem pieces_settle {url : Url} : (∀ piece ∈ Url.pieces url, Settles piece) ↔
    ∀ piece ∈ url.query.splitOn '&', piece ≠ [] → Settles piece := by
  rw [Url.pieces, splitAll_eq_splitOn]
  constructor
  · intro settled piece member some
    exact settled piece (List.mem_filter.mpr ⟨member, by simpa using some⟩)
  · intro settled piece member
    obtain ⟨member, some⟩ := List.mem_filter.mp member
    exact settled piece member (by simpa using some)

theorem query_ok_iff {url : Url} {config : Config} :
    (∃ config', (Url.pieces url).foldlM Config.setQuery config = .ok config') ↔
      ∀ piece ∈ url.query.splitOn '&', piece ≠ [] → Settles piece := by
  rw [← pieces_settle]
  apply foldlM_ok_iff
  intro config piece
  exact setQuery_ok_iff

theorem ofUrl_ok_iff {url : Url} : (∃ config, Config.ofUrl url = .ok config) ↔ Readable url := by
  unfold Config.ofUrl
  constructor
  · intro accepted
    obtain ⟨user, login, accepted⟩ := except_bind_ok_iff.mp accepted
    obtain ⟨password, secret, accepted⟩ := except_bind_ok_iff.mp accepted
    obtain ⟨host, address, accepted⟩ := except_bind_ok_iff.mp accepted
    obtain ⟨ported, port, accepted⟩ := except_bind_ok_iff.mp accepted
    obtain ⟨database, path, query⟩ := except_bind_ok_iff.mp accepted
    exact ⟨⟨user, decodePart_iff.mp login⟩, decodePart?_ok_iff.mp ⟨password, secret⟩,
      decodePart?_ok_iff.mp ⟨host, address⟩, setPort_ok_iff.mp ⟨ported, port⟩,
      decodePart?_ok_iff.mp ⟨database, path⟩, query_ok_iff.mp query⟩
  · rintro ⟨⟨user, login⟩, secret, address, port, path, query⟩
    obtain ⟨password, secret⟩ := decodePart?_ok_iff.mpr secret
    obtain ⟨host, address⟩ := decodePart?_ok_iff.mpr address
    obtain ⟨database, path⟩ := decodePart?_ok_iff.mpr path
    refine except_bind_ok_iff.mpr ⟨user, decodePart_iff.mpr login, ?_⟩
    refine except_bind_ok_iff.mpr ⟨password, secret, ?_⟩
    refine except_bind_ok_iff.mpr ⟨host, address, ?_⟩
    obtain ⟨ported, port⟩ := setPort_ok_iff.mpr port
    refine except_bind_ok_iff.mpr ⟨ported, port, ?_⟩
    refine except_bind_ok_iff.mpr ⟨database, path, ?_⟩
    exact query_ok_iff.mpr query

def Spelled (text : String) (spelling : Spelling) : Prop :=
  spelling.Distinct ∧ spelling.text = text.toList

theorem parse_spelled {text : String} {spelling : Spelling} (spelled : Spelled text spelling) :
    Config.parse text = Config.ofUrl spelling.url := by
  rw [Config.parse, ← spelled.2, spelled.1.ofText]
  rfl

private theorem Spelling.Distinct.kept {spelling : Spelling} (distinct : spelling.Distinct) :
    spelling.kept.Distinct := by
  have address := spelling.address.kept_sublist
  have authority : spelling.kept.authority.Sublist spelling.authority := .append (.refl _) address
  have front : (spelling.kept.authority ++ behind '/' spelling.kept.path).Sublist
      (spelling.authority ++ behind '/' spelling.path) := .append authority (.refl _)
  exact ⟨distinct.scheme, distinct.user, distinct.address.kept,
    fun member => distinct.login (address.subset member),
    fun member => distinct.path (authority.subset member),
    fun member => distinct.query (front.subset member)⟩

private theorem Spelling.kept_url (spelling : Spelling) : spelling.kept.url = spelling.url := by
  unfold url kept
  rw [Address.kept_host, Address.kept_port]

/-- A text is accepted exactly if it has a spelling whose parts can be read. It has one at most; what
the spelling drops makes no difference, so the text is read as if it were not there. -/
theorem parse_accepts_iff (text : String) :
    ((∃ config, Config.parse text = .ok config) ↔
      ∃ spelling, Spelled text spelling ∧ Readable spelling.url) ∧
    ∀ spelling, Spelled text spelling →
      (∀ other, Spelled text other → other = spelling) ∧
      Config.parse text = Config.parse (String.ofList spelling.kept.text) := by
  refine ⟨?_, fun spelling spelled => ⟨fun other spelled' => ?_, ?_⟩⟩
  · constructor
    · intro accepted
      obtain ⟨url, read, accepted⟩ := except_bind_ok_iff.mp accepted
      obtain ⟨spelling, distinct, same⟩ := exists_spelling read
      refine ⟨spelling, ⟨distinct, same⟩, ofUrl_ok_iff.mp ?_⟩
      rw [← same, distinct.ofText] at read
      cases read
      exact accepted
    · rintro ⟨spelling, spelled, readable⟩
      rw [parse_spelled spelled]
      exact ofUrl_ok_iff.mpr readable
  · exact Spelling.text_inj spelled'.1 spelled.1 (spelled'.2.trans spelled.2.symm)
  · have kept : Spelled (String.ofList spelling.kept.text) spelling.kept :=
      ⟨spelled.1.kept, String.toList_ofList.symm⟩
    rw [parse_spelled spelled, parse_spelled kept, spelling.kept_url]

private def portless : String := "postgres://[::1]5433/app"

private def portlessSpelling : Spelling where
  scheme := "postgres".toList
  login := none
  address := .trailed "::1".toList "5433".toList
  path := some "app".toList
  query := none

private theorem portless_spelled : Spelled portless portlessSpelling := by
  have distinct : portlessSpelling.address.Distinct :=
    (by decide : ']' ∉ "::1".toList ∧ "5433".toList ≠ [] ∧ "5433".toList.head? ≠ some ':')
  exact ⟨⟨by decide, nofun, distinct, by decide, by decide, by decide⟩, by decide⟩

/-- A port that lacks its colon. -/
theorem parse_accepts_iff_portless : Spelled portless portlessSpelling ∧
    Config.parse portless = Config.parse "postgres://[::1]/app" := by
  have dropped := ((parse_accepts_iff portless).2 portlessSpelling portless_spelled).2
  have without : String.ofList portlessSpelling.kept.text = "postgres://[::1]/app" := by decide
  exact ⟨portless_spelled, without ▸ dropped⟩

/-- The url is accepted, and the server is looked for at the default port, although no spelling of
the url makes use of all its text. -/
theorem port_without_colon_dropped :
    Config.parse portless =
        .ok { user := "postgres", host := "::1", port := 5432, database := some "app" } ∧
      ¬ ∃ spelling, Spelled portless spelling ∧ spelling.address.dropped = [] ∧
        Readable spelling.url := by
  refine ⟨except_of_toOption (by decide +kernel), ?_⟩
  rintro ⟨spelling, spelled, nothing, -⟩
  have same : spelling = portlessSpelling :=
    Spelling.text_inj spelled.1 portless_spelled.1 (spelled.2.trans portless_spelled.2.symm)
  subst same
  exact absurd nothing (by decide)

end PgSession.Proofs
