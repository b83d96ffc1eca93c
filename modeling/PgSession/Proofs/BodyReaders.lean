import PgSession.Message.Backend
import PgSession.Proofs.Actions

/-!
Which bodies the readers of the handshake accept, and what they make of them. Each accepts exactly
the bodies that begin with the bytes its value stands for.
-/

namespace PgSession.Proofs
open Wire

private theorem int32Value_int32 {value : Int32} {first second third fourth : UInt8}
    (same : int32 value = [first, second, third, fourth]) :
    int32Value first second third fourth = value := by
  simp only [int32, word, List.cons.injEq, and_true] at same
  obtain ⟨rfl, rfl, rfl, rfl⟩ := same
  rw [int32Value, wordValue_word _ value.toUInt32.toNat_lt, UInt32.ofNat_toNat,
    Int32.toInt32_toUInt32]

theorem int32_ok_iff {bytes rest : List UInt8} {value : Int32} :
    Reader.int32 bytes = .ok value rest ↔ bytes = int32 value ++ rest := by
  constructor
  · intro read
    match bytes with
    | first :: second :: third :: fourth :: more =>
      cases read
      rw [int32_int32Value]
      rfl
    | [] | [_] | [_, _] | [_, _, _] => cases read
  · rintro rfl
    change EStateM.Result.ok (int32Value _ _ _ _) rest = _
    rw [int32Value_int32 rfl]

theorem take_ok_iff {count : Nat} {bytes taken rest : List UInt8} :
    Reader.take count bytes = .ok taken rest ↔ taken.length = count ∧ bytes = taken ++ rest := by
  unfold Reader.take
  constructor
  · intro read
    split at read
    · cases read
      exact ⟨List.length_take_of_le ‹_›, (List.take_append_drop count bytes).symm⟩
    · cases read
  · rintro ⟨rfl, rfl⟩
    rw [if_pos (by simp), List.take_left, List.drop_left]

/-- A reader that begins with a number sees the rest of the bytes behind it. -/
theorem int32_bind_ok_iff {α : Type} {next : Int32 → Reader α} {bytes rest : List UInt8} {value : α} :
    (Reader.int32 >>= next) bytes = .ok value rest ↔
      ∃ number more, bytes = int32 number ++ more ∧ next number more = .ok value rest := by
  constructor
  · intro read
    cases first : Reader.int32 bytes with
    | ok number more =>
      rw [bind_ok first] at read
      exact ⟨number, more, int32_ok_iff.mp first, read⟩
    | error error more =>
      rw [bind_error first] at read
      cases read
  · rintro ⟨number, more, same, read⟩
    rw [bind_ok (int32_ok_iff.mpr same)]
    exact read

/-- The number that says which challenge a body holds, and what belongs to it. -/
def Authentication.bytes : Authentication → List UInt8
  | .ok => int32 0
  | .cleartextPassword => int32 3
  | .md5Password salt => int32 5 ++ salt

theorem authentication_ok_iff {body rest : List UInt8} {challenge : Authentication} :
    Reader.authentication body = .ok challenge rest ↔
      body = Authentication.bytes challenge ++ rest ∧
        ∀ salt, challenge = .md5Password salt → salt.length = saltSize := by
  unfold Reader.authentication
  rw [int32_bind_ok_iff]
  constructor
  · rintro ⟨code, more, rfl, read⟩
    by_cases done : code = 0
    · rw [if_pos done] at read
      cases read
      exact ⟨by rw [done]; rfl, nofun⟩
    rw [if_neg done] at read
    by_cases clear : code = 3
    · rw [if_pos clear] at read
      cases read
      exact ⟨by rw [clear]; rfl, nofun⟩
    rw [if_neg clear] at read
    by_cases salted : code = 5
    · rw [if_pos salted] at read
      cases taken : Reader.take saltSize more with
      | ok salt left =>
        rw [bind_ok taken] at read
        cases read
        obtain ⟨size, rfl⟩ := take_ok_iff.mp taken
        refine ⟨by rw [salted, Authentication.bytes, List.append_assoc], ?_⟩
        rintro _ ⟨⟩
        exact size
      | error error left =>
        rw [bind_error taken] at read
        cases read
    · rw [if_neg salted] at read
      cases read
  · rintro ⟨rfl, sized⟩
    cases challenge with
    | ok => exact ⟨0, rest, rfl, rfl⟩
    | cleartextPassword => exact ⟨3, rest, rfl, rfl⟩
    | md5Password salt =>
      refine ⟨5, salt ++ rest, by rw [Authentication.bytes, List.append_assoc], ?_⟩
      rw [if_neg (by decide), if_neg (by decide), if_pos rfl,
        bind_ok (take_ok_iff.mpr ⟨sized salt rfl, rfl⟩)]
      rfl

theorem keyData_ok_iff {body rest : List UInt8} {key : KeyData} :
    Reader.keyData body = .ok key rest ↔
      body = int32 key.processId ++ (int32 key.secretKey ++ rest) := by
  unfold Reader.keyData
  simp only [int32_bind_ok_iff]
  constructor
  · rintro ⟨processId, _, rfl, secretKey, more, rfl, read⟩
    cases read
    rfl
  · intro same
    exact ⟨_, _, same, _, _, rfl, rfl⟩

/-- Eight bytes are a key, whatever they are. -/
theorem keyData_reads {body : List UInt8} (enough : 8 ≤ body.length) :
    ∃ key rest, Reader.keyData body = .ok key rest := by
  match body, enough with
  | first :: second :: third :: fourth :: fifth :: sixth :: seventh :: eighth :: rest, _ =>
    exact ⟨⟨int32Value first second third fourth, int32Value fifth sixth seventh eighth⟩, rest, rfl⟩

theorem transactionStatus_ok_iff {body rest : List UInt8} {status : TransactionStatus} :
    Reader.transactionStatus body = .ok status rest ↔
      ∃ byte, body = byte :: rest ∧ TransactionStatus.ofByte byte = .ok status := by
  unfold Reader.transactionStatus
  cases body with
  | nil => exact ⟨nofun, fun ⟨_, impossible, _⟩ => nomatch impossible⟩
  | cons byte more =>
    have first : Reader.byte (byte :: more) = .ok byte more := rfl
    rw [bind_ok first]
    cases found : TransactionStatus.ofByte byte with
    | ok seen =>
      constructor
      · intro read
        cases read
        exact ⟨byte, rfl, found⟩
      · rintro ⟨_, ⟨⟩, same⟩
        rw [found] at same
        cases same
        rfl
    | error violation =>
      constructor
      · intro read
        cases read
      · rintro ⟨_, ⟨⟩, same⟩
        rw [found] at same
        cases same

theorem ofByte_ok_iff {byte : UInt8} {status : TransactionStatus} :
    TransactionStatus.ofByte byte = .ok status ↔
      byte = 'I'.toUInt8 ∧ status = .idle ∨ byte = 'T'.toUInt8 ∧ status = .inTransaction ∨
        byte = 'E'.toUInt8 ∧ status = .failed := by
  unfold TransactionStatus.ofByte
  constructor
  · intro found
    repeat' split at found
    all_goals cases found
    · exact .inl ⟨‹_›, rfl⟩
    · exact .inr (.inl ⟨‹_›, rfl⟩)
    · exact .inr (.inr ⟨‹_›, rfl⟩)
  · rintro (⟨rfl, rfl⟩ | ⟨rfl, rfl⟩ | ⟨rfl, rfl⟩) <;> rfl

end PgSession.Proofs
