import PgSession.Proofs.FramedWriting
import PgSession.Proofs.HandshakeLanguage
import PgSession.Proofs.TextRoundTrip
import PgSession.Proofs.Utterances

/-!
The answer to a salted challenge, byte by byte. Whatever user and password are, it has the same length
and the same frame around 32 digits, and user and password have a share in it only as the bytes of one
after the other.
-/

namespace PgSession.Proofs
open Wire Text Digest Session

/-- The digits of a byte as they go over the wire, in lower case. -/
def alphabet : List UInt8 := utf8 "0123456789abcdef"

def digit (value : Nat) : UInt8 := alphabet.getD value 0

def digits (bytes : List UInt8) : List UInt8 :=
  bytes.flatMap fun byte => [digit (byte.toNat / 16), digit (byte.toNat % 16)]

private theorem encodeChar_hexDigit {value : Nat} (small : value < 16) :
    encodeChar (hexDigit value) = [digit value] := by
  have each : ∀ value < 16, encodeChar (hexDigit value) = [digit value] := by decide +kernel
  exact each value small

private theorem utf8_hex (bytes : List UInt8) : utf8 (hex bytes) = digits bytes := by
  rw [utf8, hex, String.toList_ofList, List.flatMap_assoc, digits]
  congr 1
  funext byte
  have high : byte.toNat / 16 < 16 := by
    have := byte.toNat_lt
    omega
  have low : byte.toNat % 16 < 16 := Nat.mod_lt _ (by decide)
  rw [hexByte, List.flatMap_cons, List.flatMap_cons, List.flatMap_nil, encodeChar_hexDigit high,
    encodeChar_hexDigit low]
  rfl

private theorem digits_length (bytes : List UInt8) : (digits bytes).length = 2 * bytes.length := by
  rw [digits, List.length_flatMap]
  induction bytes with
  | nil => rfl
  | cons byte bytes ih =>
    rw [List.map_cons, List.sum_cons, ih, List.length_cons]
    change 2 + 2 * bytes.length = 2 * (bytes.length + 1)
    omega

private theorem digits_subset (bytes : List UInt8) : digits bytes ⊆ alphabet := by
  have each : ∀ value < 16, digit value ∈ alphabet := by decide +kernel
  intro found member
  obtain ⟨byte, -, member⟩ := List.mem_flatMap.mp member
  have bound := byte.toNat_lt
  rw [List.mem_pair] at member
  rcases member with rfl | rfl
  · exact each _ (by omega)
  · exact each _ (Nat.mod_lt _ (by decide))

/-- The whole message that answers a salted challenge, given the bytes of password and user. -/
def saltedAnswer (identity salt : List UInt8) : List UInt8 :=
  [Tag.password] ++ [0, 0, 0, 40] ++ utf8 "md5" ++ digits (md5 (digits (md5 identity) ++ salt)) ++ [0]

theorem saltedAnswer_length (identity salt : List UInt8) : (saltedAnswer identity salt).length = 41 := by
  simp only [saltedAnswer, List.length_append, digits_length, md5_length]
  rfl

private theorem utf8_append (first second : String) :
    utf8 (first ++ second) = utf8 first ++ utf8 second := by
  rw [utf8, String.toList_append, List.flatMap_append]
  rfl

private theorem utf8_md5Credential (user password : String) (salt : List UInt8) :
    utf8 (md5Credential user password salt) =
      utf8 "md5" ++ digits (md5 (digits (md5 (utf8 (password ++ user))) ++ salt)) := by
  rw [md5Credential, utf8_append, utf8_hex, utf8_hex, utf8_append]

private theorem encoded_md5Credential (user password : String) (salt : List UInt8) :
    encoded (.password (md5Credential user password salt)) =
      saltedAnswer (utf8 (password ++ user)) salt := by
  have length : (utf8 (md5Credential user password salt) ++ [0]).length = 36 := by
    simp only [utf8_md5Credential, List.length_append, digits_length, md5_length]
    rfl
  simp only [encoded, FrontendMessage.items, Item.encodeAll, Item.encode, List.append_nil, length]
  rw [utf8_md5Credential, saltedAnswer]
  simp only [List.append_assoc]
  rfl

theorem zero_not_mem_md5Credential (user password : String) (salt : List UInt8) :
    0 ∉ utf8 (md5Credential user password salt) := by
  rw [utf8_md5Credential, List.mem_append, not_or]
  exact ⟨by decide, fun member => absurd (digits_subset _ member) (by decide)⟩

/-- A salted challenge that is heard has a salt of four bytes. -/
private theorem asked_salt {config : Config} {stream salt : List UInt8}
    (heard : .md5Password salt ∈ asked config stream) : salt.length = saltSize := by
  obtain ⟨frame, -, challenged⟩ := List.mem_filterMap.mp heard
  obtain ⟨-, rest, read⟩ := Frame.reads?_eq_some_iff.mp (Frame.challenge_read challenged)
  exact (authentication_ok_iff.mp read).2 salt rfl

private theorem answers_getElem? {config : Config} {asked : List Authentication} {index : Nat}
    {challenge : Authentication} (challenged : asked[index]? = some challenge) :
    (answers config asked)[index]? = config.password.map fun password =>
      encoded (.password (credential config.user password challenge)) := by
  rw [answers]
  cases config.password with
  | none => rfl
  | some password =>
    rw [List.getElem?_map, challenged]
    rfl

/-- What is written in the place of an answer is the answer. -/
theorem Utters.answer {τ : Type} [Transport τ] {start : Outlook τ} {calls : List Call}
    (utters : Utters start calls) {index : Nat} {challenge : Authentication} {bytes : List UInt8}
    (challenged : (asked start.config (heard start.link calls))[index]? = some challenge)
    (written : (writesIn calls)[(greeting start.config).length + index]? = some bytes) :
    ∃ password, start.config.password = some password ∧
      encoded (.password (credential start.config.user password challenge)) = bytes := by
  -- What was written is a beginning of what is owed, where the answers follow the greeting.
  obtain ⟨rest, same⟩ := utters.said
  have within := (List.getElem?_eq_some_iff.mp written).1
  have said : (writesIn calls ++ rest)[(greeting start.config).length + index]? = some bytes :=
    (List.getElem?_append_left within).trans written
  rw [same, List.getElem?_append_right (Nat.le_add_right ..), Nat.add_sub_cancel_left,
    answers_getElem? challenged] at said
  exact Option.map_eq_some_iff.mp said

/-- For any user, password and salt the answer is the one message of 41 bytes that the digest stands
for, in any buffer; and in a conversation it is what is written when it is asked for. -/
theorem salted_answer :
    (∀ user password salt,
      let credential := md5Credential user password salt
      let answer := saltedAnswer (utf8 (password ++ user)) salt
      0 ∉ utf8 credential ∧ answer.length = 41 ∧
      (∀ buffer, Reachable buffer → ∃ after,
        (FrontendMessage.password credential).write buffer = .ok () after ∧ Shows answer after) ∧
      ∀ user' password', password' ++ user' = password ++ user →
        md5Credential user' password' salt = credential) ∧
    ∀ (τ : Type) [Transport τ] (config : Config) (link : τ) (operations : List Operation),
      (∀ operation ∈ operations, establishes operation) →
      let calls := (performAll (Client.new config link) operations).session.channel.calls
      ∀ index salt bytes,
        (asked config (heard link calls))[index]? = some (.md5Password salt) →
        (writesIn calls)[(greeting config).length + index]? = some bytes →
        salt.length = saltSize ∧ ∃ password, config.password = some password ∧
          bytes = saltedAnswer (utf8 (password ++ config.user)) salt := by
  constructor
  · intro user password salt credential answer
    refine ⟨zero_not_mem_md5Credential user password salt, saltedAnswer_length _ salt, ?_, ?_⟩
    · intro buffer reachable
      obtain ⟨after, wrote, holds⟩ := write_sendable reachable.sound (md5_sendable user password salt)
      rw [encoded_md5Credential] at holds
      exact ⟨after, wrote, holds.shows⟩
    · intro user' password' same
      apply utf8_injective
      rw [utf8_md5Credential, utf8_md5Credential, same]
  · intro τ _ config link operations establishing calls index salt bytes challenged written
    have spoken := (performAll_spoken config link establishing).known
    obtain ⟨password, given, same⟩ := spoken.utters.answer challenged written
    refine ⟨asked_salt (List.mem_of_getElem? challenged), password, given, ?_⟩
    rw [← same]
    exact encoded_md5Credential ..

private def anonymous : Config := { user := "", password := some "" }

private def askingTwice : Script where
  served := Frame.bytes ⟨Tag.authentication, int32 3⟩ ++
    Frame.bytes ⟨Tag.authentication, int32 5 ++ [1, 2, 3, 4]⟩

/-- The empty password of an empty user, and a server that asks twice. -/
theorem salted_answer_anonymous :
    let calls := (performAll (Client.new anonymous askingTwice) [.handshake]).session.channel.calls
    (asked anonymous (heard askingTwice calls))[1]? = some (.md5Password [1, 2, 3, 4]) ∧
      (writesIn calls)[2]? = some (Tag.password :: 0 :: 0 :: 0 :: 40 ::
        utf8 "md5ada29999d4c1ee52a9d35ac6fe6129e8" ++ [0]) ∧
      saltedAnswer (utf8 "") [1, 2, 3, 4] = Tag.password :: 0 :: 0 :: 0 :: 40 ::
        utf8 "md5ada29999d4c1ee52a9d35ac6fe6129e8" ++ [0] := by
  intro calls
  have challenged : (asked anonymous (heard askingTwice calls))[1]? =
      some (.md5Password [1, 2, 3, 4]) := by decide +kernel
  have written : (writesIn calls)[(greeting anonymous).length + 1]? =
      some (Tag.password :: 0 :: 0 :: 0 :: 40 ::
        utf8 "md5ada29999d4c1ee52a9d35ac6fe6129e8" ++ [0]) := by decide +kernel
  obtain ⟨-, password, given, same⟩ := salted_answer.2 Script anonymous askingTwice [.handshake]
    (by decide) 1 [1, 2, 3, 4] _ challenged written
  cases given
  exact ⟨challenged, written, same.symm⟩

end PgSession.Proofs
