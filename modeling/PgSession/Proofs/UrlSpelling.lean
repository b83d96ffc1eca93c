import PgSession.Proofs.Separators
import PgSession.Proofs.UrlReading

/-!
How urls are spelled: from a scheme, a login, an address, a path and a query. The text of a url leaves
no choice which character belongs to which of them, and they are what the text is taken apart into. A
text behind a scheme has no spelling only if its address opens a bracket and does not close it.
-/

namespace PgSession.Proofs
open Text

/-- A host by its name or in brackets, each with or without a port. Behind the bracket there may also
be other text, which belongs to nothing. -/
inductive Address where
  | name (host : List Char) (port : Option (List Char))
  | literal (host : List Char) (port : Option (List Char))
  | trailed (host dropped : List Char)

namespace Address

def text : Address → List Char
  | .name host port => host ++ behind ':' port
  | .literal host port => '[' :: (host ++ ']' :: behind ':' port)
  | .trailed host dropped => '[' :: (host ++ ']' :: dropped)

def host : Address → List Char
  | .name host _ => host
  | .literal host _ => host
  | .trailed host _ => host

def port : Address → Option (List Char)
  | .name _ port => port
  | .literal _ port => port
  | .trailed _ _ => none

def dropped : Address → List Char
  | .name _ _ => []
  | .literal _ _ => []
  | .trailed _ dropped => dropped

/-- No part holds what ends it, and what is dropped is not the beginning of a port. -/
def Distinct : Address → Prop
  | .name host _ => ':' ∉ host ∧ host.head? ≠ some '['
  | .literal host _ => ']' ∉ host
  | .trailed host dropped => ']' ∉ host ∧ dropped ≠ [] ∧ dropped.head? ≠ some ':'

/-- The address without what is dropped. -/
def kept : Address → Address
  | .trailed host _ => .literal host none
  | address => address

theorem Distinct.kept {address : Address} (distinct : address.Distinct) : address.kept.Distinct := by
  cases address with
  | name host port => exact distinct
  | literal host port => exact distinct
  | trailed host dropped => exact distinct.1

theorem kept_sublist (address : Address) : address.kept.text.Sublist address.text := by
  cases address with
  | name host port => exact .refl _
  | literal host port => exact .refl _
  | trailed host dropped =>
    exact .cons_cons '[' (.append (.refl host) (.cons_cons ']' (List.nil_sublist dropped)))

theorem kept_host (address : Address) : address.kept.host = address.host := by cases address <;> rfl

theorem kept_port (address : Address) : address.kept.port = address.port := by cases address <;> rfl

end Address

private theorem splitHost_unbracketed {text : List Char} (unbracketed : text.head? ≠ some '[') :
    Url.splitHost text = .ok ((splitFirst ':' text).elim (text, none) (·.map id some)) := by
  unfold Url.splitHost
  split
  · exact absurd rfl unbracketed
  · cases splitFirst ':' text <;> rfl

private theorem head?_behind {separator bracket : Char} {host : List Char}
    (port : Option (List Char))
    (other : separator ≠ bracket) (unbracketed : host.head? ≠ some bracket) :
    (host ++ behind separator port).head? ≠ some bracket := by
  cases host with
  | nil => cases port <;> simp [behind, other]
  | cons char host => exact unbracketed

private theorem splitHost_bracketed {host rest : List Char} (free : ']' ∉ host) :
    Url.splitHost ('[' :: (host ++ ']' :: rest)) =
      .ok (if rest.head? = some ':' then (host, some rest.tail) else (host, none)) := by
  unfold Url.splitHost
  simp only [splitFirst_append free]
  cases rest with
  | nil => rfl
  | cons char rest =>
    by_cases colon : char = ':'
    · subst colon
      rfl
    · rw [List.head?_cons, if_neg (mt Option.some.inj colon)]
      split
      · next found => cases found
      · next found =>
        cases found
        exact absurd rfl colon
      · next found =>
        cases found
        rfl

private theorem splitHost_text {address : Address} (distinct : address.Distinct) :
    Url.splitHost address.text = .ok (address.host, address.port) := by
  cases address with
  | name host port =>
    obtain ⟨free, unbracketed⟩ := distinct
    have start := head?_behind port (by decide : ':' ≠ '[') unbracketed
    rw [Address.text, splitHost_unbracketed start, splitFirst_behind free]
    cases port with
    | none => exact congrArg (fun host => Except.ok (host, none)) (List.append_nil host)
    | some port => rfl
  | literal host port =>
    rw [Address.text, splitHost_bracketed distinct]
    cases port <;> rfl
  | trailed host dropped =>
    rw [Address.text, splitHost_bracketed distinct.1, if_neg distinct.2.2]
    rfl

/-- Every text is an address, unless a bracket is opened and not closed. -/
private theorem exists_address (text : List Char) :
    (∃ address : Address, address.Distinct ∧ address.text = text) ∨
      Url.splitHost text = .error .unclosedBracket := by
  by_cases bracketed : text.head? = some '['
  · obtain ⟨inside, rfl⟩ := List.head?_eq_some_iff.mp bracketed
    rcases exists_first inside ']' with open_ | ⟨host, rest, rfl, free⟩
    · right
      simp only [Url.splitHost, splitFirst_none open_]
    left
    cases rest with
    | nil => exact ⟨.literal host none, free, rfl⟩
    | cons char rest =>
      by_cases colon : char = ':'
      · exact ⟨.literal host (some rest), free, colon ▸ rfl⟩
      · exact ⟨.trailed host (char :: rest), ⟨free, nofun, mt Option.some.inj colon⟩, rfl⟩
  · obtain ⟨host, port, rfl, free⟩ := exists_behind text ':'
    refine .inl ⟨.name host port, ⟨free, fun head => bracketed ?_⟩, rfl⟩
    cases host with
    | nil => cases head
    | cons char host => exact head

private theorem Address.bracketed {address : Address} (distinct : address.Distinct) :
    address.text.head? = some '[' ↔ ∀ host port, address ≠ .name host port := by
  cases address with
  | name host port =>
    have start := head?_behind port (by decide : ':' ≠ '[') distinct.2
    exact ⟨fun head => absurd head start, fun other => absurd rfl (other host port)⟩
  | literal host port => exact ⟨fun _ _ _ => nofun, fun _ => rfl⟩
  | trailed host dropped => exact ⟨fun _ _ _ => nofun, fun _ => rfl⟩

private theorem Address.text_inj {address other : Address} (distinct : address.Distinct)
    (distinct' : other.Distinct) (same : address.text = other.text) : address = other := by
  have split := splitHost_text distinct
  rw [same, splitHost_text distinct'] at split
  obtain ⟨hosts, ports⟩ := Prod.mk.inj (Except.ok.inj split)
  have brackets := Address.bracketed distinct
  rw [same, Address.bracketed distinct'] at brackets
  cases address with
  | name host port =>
    cases other with
    | name host' port' => rw [show host' = host from hosts, show port' = port from ports]
    | literal host' port' => exact absurd rfl (brackets.mp (fun _ _ => nofun) host port)
    | trailed host' dropped => exact absurd rfl (brackets.mp (fun _ _ => nofun) host port)
  | literal host port =>
    cases other with
    | name host' port' => exact absurd rfl (brackets.mpr (fun _ _ => nofun) host' port')
    | literal host' port' => rw [show host' = host from hosts, show port' = port from ports]
    | trailed host' dropped =>
      obtain rfl : host' = host := hosts
      obtain rfl : none = port := ports
      have nothing : [] = dropped := by simpa [Address.text, behind] using same
      exact absurd nothing.symm distinct'.2.1
  | trailed host dropped =>
    cases other with
    | name host' port' => exact absurd rfl (brackets.mpr (fun _ _ => nofun) host' port')
    | literal host' port' =>
      obtain rfl : host' = host := hosts
      obtain rfl : port' = none := ports
      have nothing : dropped = [] := by simpa [Address.text, behind] using same
      exact absurd nothing distinct.2.1
    | trailed host' dropped' =>
      obtain rfl : host' = host := hosts
      have equal : dropped = dropped' := by simpa [Address.text] using same
      rw [equal]

@[ext]
structure Login where
  user : List Char
  password : Option (List Char)

def Login.text (login : Login) : List Char := login.user ++ behind ':' login.password

def loginText : Option Login → List Char
  | none => []
  | some login => login.text ++ ['@']

@[ext]
structure Spelling where
  scheme : List Char
  login : Option Login
  address : Address
  path : Option (List Char)
  query : Option (List Char)

def schemes : List (List Char) := ["postgres".toList, "postgresql".toList]

def schemeEnd : List Char := [':', '/', '/']

namespace Spelling

def authority (spelling : Spelling) : List Char :=
  loginText spelling.login ++ spelling.address.text

def rest (spelling : Spelling) : List Char :=
  spelling.authority ++ behind '/' spelling.path ++ behind '?' spelling.query

def text (spelling : Spelling) : List Char := spelling.scheme ++ schemeEnd ++ spelling.rest

/-- The query begins at the first question mark, the path at the first slash before it, and the
address behind the last at sign of what is left. -/
structure Distinct (spelling : Spelling) : Prop where
  scheme : spelling.scheme ∈ schemes
  user : ∀ login ∈ spelling.login, ':' ∉ login.user
  address : spelling.address.Distinct
  login : '@' ∉ spelling.address.text
  path : '/' ∉ spelling.authority
  query : '?' ∉ spelling.authority ++ behind '/' spelling.path

/-- Parts that are missing are empty. -/
def url (spelling : Spelling) : Url where
  user := (spelling.login.map (·.user)).getD []
  password := (spelling.login.bind (·.password)).getD []
  host := spelling.address.host
  port := spelling.address.port
  database := spelling.path.getD []
  query := spelling.query.getD []

def kept (spelling : Spelling) : Spelling := { spelling with address := spelling.address.kept }

end Spelling

/-- What stands behind the scheme. -/
def urlOfRest (rest : List Char) : Except ParseError Url := do
  let (front, query) := (splitFirst '?' rest).getD (rest, [])
  let (authority, database) := (splitFirst '/' front).getD (front, [])
  let (login, address) := (splitLast '@' authority).getD ([], authority)
  let (user, password) := (splitFirst ':' login).getD (login, [])
  let (host, port) ← Url.splitHost address
  return { user, password, host, port, database, query }

private theorem ofText_eq (text : List Char) : Url.ofText text =
    match splitAtText schemeEnd text with
    | none => .error .schemeMissing
    | some (scheme, rest) => if scheme ∈ schemes then urlOfRest rest else .error .unknownScheme := by
  have same : "://".toList = schemeEnd := by decide
  unfold Url.ofText
  rw [same]
  cases splitAtText schemeEnd text with
  | none => rfl
  | some parts =>
    have known : parts.1 ∈ schemes ↔ parts.1 = "postgres".toList ∨ parts.1 = "postgresql".toList := by
      rw [schemes, List.mem_cons, List.mem_singleton]
    dsimp only
    by_cases member : parts.1 ∈ schemes
    · rw [if_pos member, if_pos (known.mp member)]
      rfl
    · rw [if_neg member, if_neg (mt known.mpr member)]
      rfl

private theorem scheme_clear {scheme : List Char} (known : scheme ∈ schemes) : ':' ∉ scheme := by
  revert scheme
  decide

private theorem splitAtText_scheme {scheme : List Char} (known : scheme ∈ schemes)
    (rest : List Char) :
    splitAtText schemeEnd (scheme ++ schemeEnd ++ rest) = some (scheme, rest) :=
  splitAtText_append (scheme_clear known) rest

private theorem ofText_rest {scheme : List Char} (known : scheme ∈ schemes) (rest : List Char) :
    Url.ofText (scheme ++ schemeEnd ++ rest) = urlOfRest rest := by
  rw [ofText_eq, splitAtText_scheme known]
  exact if_pos known

private theorem ofText_inv {text : List Char} {url : Url} (accepted : Url.ofText text = .ok url) :
    ∃ scheme ∈ schemes, ∃ rest, text = scheme ++ schemeEnd ++ rest ∧ urlOfRest rest = .ok url := by
  rw [ofText_eq] at accepted
  split at accepted
  · cases accepted
  · next scheme rest found =>
    split at accepted
    · next known => exact ⟨scheme, known, rest, splitAtText_sound found, accepted⟩
    · cases accepted

private theorem splitLast_login {address : List Char} (last : '@' ∉ address)
    (login? : Option Login) :
    splitLast '@' (loginText login? ++ address) = login?.map fun login => (login.text, address) := by
  cases login? with
  | none => exact splitLast_none last
  | some login =>
    rw [loginText, List.append_assoc]
    exact splitLast_append login.text last

private theorem getD_splitLast {address : List Char} (last : '@' ∉ address)
    (login? : Option Login) :
    (splitLast '@' (loginText login? ++ address)).getD ([], loginText login? ++ address) =
      ((login?.map Login.text).getD [], address) := by
  rw [splitLast_login last]
  cases login? <;> rfl

private theorem getD_splitFirst_login {login? : Option Login}
    (user : ∀ login ∈ login?, ':' ∉ login.user) :
    (splitFirst ':' ((login?.map Login.text).getD [])).getD ((login?.map Login.text).getD [], []) =
      ((login?.map (·.user)).getD [], (login?.bind (·.password)).getD []) := by
  cases login? with
  | none => rfl
  | some login => exact getD_splitFirst (user login rfl) login.password

/-- What stands behind the scheme is taken apart at its delimiters. -/
theorem Spelling.Distinct.urlOfRest {spelling : Spelling} (distinct : spelling.Distinct) :
    Proofs.urlOfRest spelling.rest = .ok spelling.url := by
  unfold Proofs.urlOfRest rest
  rw [getD_splitFirst distinct.query]
  dsimp only
  rw [getD_splitFirst distinct.path, authority]
  dsimp only
  rw [getD_splitLast distinct.login]
  dsimp only
  rw [getD_splitFirst_login distinct.user]
  dsimp only
  rw [splitHost_text distinct.address]
  rfl

theorem Spelling.Distinct.ofText {spelling : Spelling} (distinct : spelling.Distinct) :
    Url.ofText spelling.text = .ok spelling.url :=
  (ofText_rest distinct.scheme _).trans distinct.urlOfRest

private theorem exists_login (text : List Char) :
    ∃ login? address, text = loginText login? ++ address ∧
    '@' ∉ address ∧ ∀ login ∈ login?, ':' ∉ login.user := by
  rcases exists_last text '@' with free | ⟨before, address, rfl, free⟩
  · exact ⟨none, text, rfl, free, nofun⟩
  · obtain ⟨user, password, rfl, clear⟩ := exists_behind before ':'
    refine ⟨some ⟨user, password⟩, address, ?_, free, ?_⟩
    · rw [loginText, Login.text, List.append_assoc _ ['@']]
      rfl
    · intro login same
      cases same
      exact clear

/-- A text that is taken apart has a spelling. -/
theorem exists_spelling {text : List Char} {url : Url} (accepted : Url.ofText text = .ok url) :
    ∃ spelling : Spelling, spelling.Distinct ∧ spelling.text = text := by
  obtain ⟨scheme, known, rest, rfl, read⟩ := ofText_inv accepted
  obtain ⟨front, query, rfl, mark⟩ := exists_behind rest '?'
  obtain ⟨authority, path, rfl, slash⟩ := exists_behind front '/'
  obtain ⟨login?, address, rfl, last, user⟩ := exists_login authority
  unfold urlOfRest at read
  rw [getD_splitFirst mark] at read
  dsimp only at read
  rw [getD_splitFirst slash] at read
  dsimp only at read
  rw [getD_splitLast last] at read
  obtain ⟨parts, found, -⟩ := except_bind_inv read
  rcases exists_address address with ⟨address, distinct, rfl⟩ | unclosed
  · exact ⟨⟨scheme, login?, address, path, query⟩, ⟨known, user, distinct, last, slash, mark⟩, rfl⟩
  · rw [unclosed] at found
    cases found

private theorem loginText_inj {login? other? : Option Login} {address address' : List Char}
    (user : ∀ login ∈ login?, ':' ∉ login.user) (user' : ∀ login ∈ other?, ':' ∉ login.user)
    (last : '@' ∉ address) (last' : '@' ∉ address')
    (same : loginText login? ++ address = loginText other? ++ address') :
    login? = other? ∧ address = address' := by
  have split := splitLast_login last login?
  rw [same, splitLast_login last'] at split
  cases login? with
  | none =>
    obtain rfl := Option.map_eq_none_iff.mp split
    exact ⟨rfl, same⟩
  | some login =>
    obtain ⟨other, rfl, equal⟩ := Option.map_eq_some_iff.mp split
    obtain ⟨texts, rfl⟩ := Prod.mk.inj equal
    obtain ⟨users, passwords⟩ := behind_inj (user' other rfl) (user login rfl) texts
    exact ⟨congrArg some (Login.ext users.symm passwords.symm), rfl⟩

/-- A text has one spelling only. -/
theorem Spelling.text_inj {spelling other : Spelling} (distinct : spelling.Distinct)
    (distinct' : other.Distinct) (same : spelling.text = other.text) : spelling = other := by
  have split := splitAtText_scheme distinct.scheme spelling.rest
  rw [← text, same, text, splitAtText_scheme distinct'.scheme] at split
  obtain ⟨schemes, rests⟩ := Prod.mk.inj (Option.some.inj split)
  obtain ⟨fronts, queries⟩ := behind_inj distinct'.query distinct.query rests
  obtain ⟨authorities, paths⟩ := behind_inj distinct'.path distinct.path fronts
  obtain ⟨logins, addresses⟩ :=
    loginText_inj distinct'.user distinct.user distinct'.login distinct.login authorities
  have address := Address.text_inj distinct.address distinct'.address addresses.symm
  exact Spelling.ext schemes.symm logins.symm address paths.symm queries.symm

end PgSession.Proofs
