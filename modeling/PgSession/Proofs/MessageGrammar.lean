import PgSession.Proofs.BufferReading
import PgSession.Proofs.TextFields

/-!
The grammar of the messages that a server sends before a session is ready. A message in a buffer is
decoded exactly if its tag is the one that is wanted and its body begins with an encoding, which it
does in one way only; what is read says nothing about what stands behind it. If there is none, the
first field that cannot be read decides between the two kinds of errors.
-/

namespace PgSession.Proofs
open Wire

inductive MessageKind where
  | authentication
  | keyData
  | readyForQuery
  | parameterStatus
  | notification
  | notice
  | errorReport

namespace MessageKind

/-- What a message of this kind is read as. -/
def Value : MessageKind → Type
  | authentication => Authentication
  | keyData => KeyData
  | readyForQuery => TransactionStatus
  | parameterStatus => ParameterStatus
  | notification => Notification
  | notice => Notice
  | errorReport => ErrorReport

def tag : MessageKind → UInt8
  | authentication => Tag.authentication
  | keyData => Tag.keyData
  | readyForQuery => Tag.readyForQuery
  | parameterStatus => Tag.parameterStatus
  | notification => Tag.notification
  | notice => Tag.notice
  | errorReport => Tag.errorResponse

def reader : (kind : MessageKind) → Reader kind.Value
  | authentication => Reader.authentication
  | keyData => Reader.keyData
  | readyForQuery => Reader.transactionStatus
  | parameterStatus => Reader.parameterStatus
  | notification => Reader.notification
  | notice => Reader.notice
  | errorReport => Reader.errorReport

end MessageKind

def TransactionStatus.letter : TransactionStatus → UInt8
  | .idle => 'I'.toUInt8
  | .inTransaction => 'T'.toUInt8
  | .failed => 'E'.toUInt8

namespace MessageKind

/-- The bytes stand for the value. -/
def Encodes : (kind : MessageKind) → kind.Value → List UInt8 → Prop
  | .authentication, (challenge : Authentication), bytes =>
    bytes = Authentication.bytes challenge ∧
      ∀ salt, challenge = .md5Password salt → salt.length = saltSize
  | .keyData, (key : KeyData), bytes => bytes = int32 key.processId ++ int32 key.secretKey
  | .readyForQuery, (status : TransactionStatus), bytes => bytes = [TransactionStatus.letter status]
  | .parameterStatus, (status : ParameterStatus), bytes => ∃ name value,
    Terminated status.name name ∧ Terminated status.value value ∧ bytes = name ++ value
  | .notification, (heard : Notification), bytes => ∃ channel payload,
    Terminated heard.channel channel ∧ Terminated heard.payload payload ∧
      bytes = int32 heard.processId ++ (channel ++ payload)
  | .notice, (told : Notice), bytes => Listing told.fields bytes
  | .errorReport, (report : ErrorReport), bytes => Listing report.notice.fields bytes

/-- The bytes are what stands before a text in a message of this kind: all the fields before it. -/
def Leads : MessageKind → List UInt8 → Prop
  | authentication, _ | keyData, _ | readyForQuery, _ => False
  | parameterStatus, bytes => bytes = [] ∨ ∃ name, Terminated name bytes
  | notification, bytes => ∃ processId, bytes = int32 processId ∨
      ∃ channel text, Terminated channel text ∧ bytes = int32 processId ++ text
  | notice, bytes | errorReport, bytes => ∃ pairs front code,
      Entries pairs front ∧ code ≠ 0 ∧ bytes = front ++ [code]

/-- The first field that cannot be read is a text that is ended, but is not UTF-8. -/
def Garbled (kind : MessageKind) (body : List UInt8) : Prop :=
  ∃ front rest, kind.Leads front ∧ body = front ++ rest ∧ Unreadable rest

end MessageKind

theorem status_ok_iff {body rest : List UInt8} {status : TransactionStatus} :
    Reader.transactionStatus body = .ok status rest ↔
      body = TransactionStatus.letter status :: rest := by
  rw [transactionStatus_ok_iff]
  constructor
  · rintro ⟨byte, rfl, found⟩
    rcases ofByte_ok_iff.mp found with ⟨rfl, rfl⟩ | ⟨rfl, rfl⟩ | ⟨rfl, rfl⟩ <;> rfl
  · rintro rfl
    refine ⟨_, rfl, ofByte_ok_iff.mpr ?_⟩
    cases status with
    | idle => exact .inl ⟨rfl, rfl⟩
    | inTransaction => exact .inr (.inl ⟨rfl, rfl⟩)
    | failed => exact .inr (.inr ⟨rfl, rfl⟩)

theorem parameterStatus_ok_iff {body rest : List UInt8} {status : ParameterStatus} :
    Reader.parameterStatus body = .ok status rest ↔
      ∃ name value, Terminated status.name name ∧ Terminated status.value value ∧
        body = name ++ value ++ rest := by
  unfold Reader.parameterStatus
  simp only [text_bind_ok_iff]
  constructor
  · rintro ⟨_, name, _, first, rfl, _, value, more, second, rfl, read⟩
    cases read
    exact ⟨name, value, first, second, (List.append_assoc ..).symm⟩
  · rintro ⟨name, value, first, second, rfl⟩
    exact ⟨_, name, _, first, List.append_assoc .., _, value, rest, second, rfl, rfl⟩

theorem notification_ok_iff {body rest : List UInt8} {notification : Notification} :
    Reader.notification body = .ok notification rest ↔
      ∃ channel payload, Terminated notification.channel channel ∧
        Terminated notification.payload payload ∧
        body = int32 notification.processId ++ (channel ++ payload) ++ rest := by
  unfold Reader.notification
  simp only [int32_bind_ok_iff, text_bind_ok_iff]
  constructor
  · rintro ⟨_, _, rfl, _, channel, _, first, rfl, _, payload, more, second, rfl, read⟩
    cases read
    exact ⟨channel, payload, first, second, by simp only [List.append_assoc]⟩
  · rintro ⟨channel, payload, first, second, rfl⟩
    exact ⟨_, channel ++ (payload ++ rest), by simp only [List.append_assoc], _, channel, _, first, rfl,
      _, payload, rest, second, rfl, rfl⟩

theorem notice_ok_iff {body rest : List UInt8} {notice : Notice} :
    Reader.notice body = .ok notice rest ↔
      ∃ front, Listing notice.fields front ∧ body = front ++ rest := by
  unfold Reader.notice
  constructor
  · intro read
    obtain ⟨fields, more, first, read⟩ := bind_ok_inv read
    cases read
    obtain ⟨pairs, front, entries, rfl, rfl⟩ := fieldsAfter_ok_iff.mp first
    exact ⟨front ++ [0], listing_insertAll entries, by rw [List.append_assoc]; rfl⟩
  · rintro ⟨_, listing, rfl⟩
    obtain ⟨pairs, front, entries, rfl, same⟩ := listing.insertAll
    have first : Reader.fieldsAfter .empty (front ++ 0 :: rest) = .ok notice.fields rest :=
      fieldsAfter_ok_iff.mpr ⟨pairs, front, entries, rfl, same⟩
    rw [List.append_assoc]
    exact bind_ok first

theorem errorReport_ok_iff {body rest : List UInt8} {report : ErrorReport} :
    Reader.errorReport body = .ok report rest ↔
      ∃ front, Listing report.notice.fields front ∧ body = front ++ rest := by
  rw [← notice_ok_iff]
  unfold Reader.errorReport
  constructor
  · intro read
    obtain ⟨notice, more, first, read⟩ := bind_ok_inv read
    cases read
    exact first
  · intro first
    rw [bind_ok first]
    rfl

theorem not_faulty_authentication {body : List UInt8} : ¬ Faulty Reader.authentication body := by
  unfold Reader.authentication
  rw [faulty_int32_bind]
  rintro ⟨code, more, -, faulty⟩
  split at faulty
  · exact not_faulty_pure faulty
  split at faulty
  · exact not_faulty_pure faulty
  split at faulty
  · rcases faulty_bind.mp faulty with taking | ⟨salt, rest, -, taken⟩
    · exact not_faulty_take taking
    · exact not_faulty_pure taken
  · exact not_faulty_violation faulty

theorem not_faulty_keyData {body : List UInt8} : ¬ Faulty Reader.keyData body := by
  unfold Reader.keyData
  simp only [faulty_int32_bind, not_faulty_pure, and_false, exists_const, not_false_eq_true]

theorem not_faulty_transactionStatus {body : List UInt8} :
    ¬ Faulty Reader.transactionStatus body := by
  unfold Reader.transactionStatus
  rw [faulty_bind]
  rintro (first | ⟨byte, rest, -, faulty⟩)
  · exact not_faulty_byte first
  · split at faulty
    · exact not_faulty_pure faulty
    · exact not_faulty_violation faulty

theorem faulty_parameterStatus {body : List UInt8} :
    Faulty Reader.parameterStatus body ↔ Unreadable body ∨
      ∃ text front more, Terminated text front ∧ body = front ++ more ∧ Unreadable more := by
  unfold Reader.parameterStatus
  simp only [faulty_text_bind, not_faulty_pure, and_false, exists_const, or_false]

theorem faulty_notification {body : List UInt8} :
    Faulty Reader.notification body ↔ ∃ processId more, body = int32 processId ++ more ∧
      (Unreadable more ∨
        ∃ text front rest, Terminated text front ∧ more = front ++ rest ∧ Unreadable rest) := by
  unfold Reader.notification
  simp only [faulty_int32_bind, faulty_text_bind, not_faulty_pure, and_false, exists_const, or_false]

theorem faulty_notice {body : List UInt8} :
    Faulty Reader.notice body ↔ ∃ pairs front code more, Entries pairs front ∧ code ≠ 0 ∧
      body = front ++ code :: more ∧ Unreadable more := by
  unfold Reader.notice
  simp only [faulty_bind, not_faulty_pure, and_false, exists_false, or_false, faulty_fieldsAfter]

theorem faulty_errorReport {body : List UInt8} :
    Faulty Reader.errorReport body ↔ Faulty Reader.notice body := by
  unfold Reader.errorReport
  simp only [faulty_bind, not_faulty_pure, and_false, exists_false, or_false]

namespace MessageKind

variable {kind : MessageKind} {body rest : List UInt8}

theorem reads {value : kind.Value} :
    kind.reader body = .ok value rest ↔ ∃ front, kind.Encodes value front ∧ body = front ++ rest := by
  cases kind with
  | authentication =>
    refine authentication_ok_iff.trans ⟨?_, ?_⟩
    · rintro ⟨same, sized⟩
      exact ⟨_, ⟨rfl, sized⟩, same⟩
    · rintro ⟨_, ⟨rfl, sized⟩, same⟩
      exact ⟨same, sized⟩
  | keyData =>
    refine keyData_ok_iff.trans ⟨fun same => ⟨_, rfl, ?_⟩, ?_⟩
    · rw [same, List.append_assoc]
    · rintro ⟨_, rfl, same⟩
      rw [same, List.append_assoc]
  | readyForQuery =>
    refine status_ok_iff.trans ⟨fun same => ⟨_, rfl, same⟩, ?_⟩
    rintro ⟨_, rfl, same⟩
    exact same
  | parameterStatus =>
    refine parameterStatus_ok_iff.trans ⟨?_, ?_⟩
    · rintro ⟨name, value, first, second, same⟩
      exact ⟨_, ⟨name, value, first, second, rfl⟩, same⟩
    · rintro ⟨_, ⟨name, value, first, second, rfl⟩, same⟩
      exact ⟨name, value, first, second, same⟩
  | notification =>
    refine notification_ok_iff.trans ⟨?_, ?_⟩
    · rintro ⟨channel, payload, first, second, same⟩
      exact ⟨_, ⟨channel, payload, first, second, rfl⟩, same⟩
    · rintro ⟨_, ⟨channel, payload, first, second, rfl⟩, same⟩
      exact ⟨channel, payload, first, second, same⟩
  | notice => exact notice_ok_iff
  | errorReport => exact errorReport_ok_iff

/-- A kind of messages without texts is never garbled. -/
private theorem never_garbled (none : ∀ front, ¬ kind.Leads front) : ¬ kind.Garbled body :=
  fun ⟨front, _, leads, _⟩ => none front leads

private theorem garbled_fields (listed : ∀ front, kind.Leads front ↔
      ∃ pairs entries code, Entries pairs entries ∧ code ≠ 0 ∧ front = entries ++ [code]) :
    Faulty Reader.notice body ↔ kind.Garbled body := by
  rw [faulty_notice]
  constructor
  · rintro ⟨pairs, front, code, more, entries, nonzero, rfl, unreadable⟩
    refine ⟨front ++ [code], more, (listed _).mpr ⟨pairs, front, code, entries, nonzero, rfl⟩, ?_,
      unreadable⟩
    rw [List.append_assoc]
    rfl
  · rintro ⟨_, more, leads, rfl, unreadable⟩
    obtain ⟨pairs, front, code, entries, nonzero, rfl⟩ := (listed _).mp leads
    refine ⟨pairs, front, code, more, entries, nonzero, ?_, unreadable⟩
    rw [List.append_assoc]
    rfl

theorem faulty : Faulty kind.reader body ↔ kind.Garbled body := by
  cases kind with
  | authentication => exact iff_of_false not_faulty_authentication (never_garbled fun _ => id)
  | keyData => exact iff_of_false not_faulty_keyData (never_garbled fun _ => id)
  | readyForQuery => exact iff_of_false not_faulty_transactionStatus (never_garbled fun _ => id)
  | parameterStatus =>
    refine faulty_parameterStatus.trans ⟨?_, ?_⟩
    · rintro (first | ⟨text, front, more, terminated, same, second⟩)
      · exact ⟨[], body, .inl rfl, rfl, first⟩
      · exact ⟨front, more, .inr ⟨text, terminated⟩, same, second⟩
    · rintro ⟨_, rest, rfl | ⟨text, terminated⟩, same, unreadable⟩
      · exact .inl (same ▸ unreadable)
      · exact .inr ⟨text, _, rest, terminated, same, unreadable⟩
  | notification =>
    refine faulty_notification.trans ⟨?_, ?_⟩
    · rintro ⟨processId, more, rfl, first | ⟨text, front, rest, terminated, rfl, second⟩⟩
      · exact ⟨int32 processId, more, ⟨processId, .inl rfl⟩, rfl, first⟩
      · exact ⟨int32 processId ++ front, rest, ⟨processId, .inr ⟨text, front, terminated, rfl⟩⟩,
          (List.append_assoc ..).symm, second⟩
    · rintro ⟨_, rest, ⟨processId, rfl | ⟨text, front, terminated, rfl⟩⟩, rfl, unreadable⟩
      · exact ⟨processId, rest, rfl, .inl unreadable⟩
      · exact ⟨processId, front ++ rest, List.append_assoc .., .inr ⟨text, front, rest, terminated, rfl,
          unreadable⟩⟩
  | notice => exact garbled_fields fun _ => Iff.rfl
  | errorReport => exact faulty_errorReport.trans (garbled_fields fun _ => Iff.rfl)

/-- A body begins with one encoding at most. -/
theorem unique {value value' : kind.Value} {front front' : List UInt8}
    (encodes : kind.Encodes value front) (encodes' : kind.Encodes value' front')
    (begins : front <+: body) (begins' : front' <+: body) : value' = value ∧ front' = front := by
  obtain ⟨rest, rfl⟩ := begins
  obtain ⟨rest', same⟩ := begins'
  have read : kind.reader (front ++ rest) = .ok value rest := reads.mpr ⟨front, encodes, rfl⟩
  have read' : kind.reader (front ++ rest) = .ok value' rest' :=
    reads.mpr ⟨front', encodes', same.symm⟩
  rw [read] at read'
  cases read'
  exact ⟨rfl, List.append_cancel_right same⟩

end MessageKind

/-- The message in the buffer is of this kind, and its body begins with these bytes, which stand for
the value. -/
structure Bears (kind : MessageKind) (value : kind.Value) (front : List UInt8) (buffer : Buffer) :
    Prop where
  tag : byteAt buffer 0 = kind.tag
  encodes : kind.Encodes value front
  begins : front <+: bodyOf buffer

section
variable {buffer : Buffer} (kind : MessageKind)

/-- The cursor has moved over what was read. -/
private theorem position_eq (header : headerSize ≤ buffer.limit) {front rest : List UInt8}
    (parts : bodyOf buffer = front ++ rest) :
    buffer.limit - rest.length = headerSize + front.length := by
  have size : (bodyOf buffer).length = buffer.limit - headerSize := contents_length ..
  rw [parts, List.length_append] at size
  omega

theorem decode_ok_iff (header : headerSize ≤ buffer.limit) (inside : buffer.limit ≤ buffer.capacity)
    (value : kind.Value) (after : Buffer) :
    decode kind.tag kind.reader buffer = .ok value after ↔
      ∃ front, Bears kind value front buffer ∧
        after = { buffer with position := headerSize + front.length } := by
  rw [decode_eq kind.tag kind.reader header inside]
  constructor
  · intro decoded
    split at decoded
    · next tagged =>
      split at decoded
      · next value rest read =>
        cases decoded
        obtain ⟨front, encodes, parts⟩ := MessageKind.reads.mp read
        exact ⟨front, ⟨tagged, encodes, rest, parts.symm⟩, by rw [position_eq header parts]⟩
      · cases decoded
    · cases decoded
  · rintro ⟨front, ⟨tagged, encodes, rest, parts⟩, rfl⟩
    rw [if_pos tagged, MessageKind.reads.mpr ⟨front, encodes, parts.symm⟩]
    simp only [position_eq header parts.symm]

theorem decode_garbled_iff (header : headerSize ≤ buffer.limit)
    (inside : buffer.limit ≤ buffer.capacity) :
    (∃ fault after, decode kind.tag kind.reader buffer = .error (.failed (.utf8 fault)) after) ↔
      byteAt buffer 0 = kind.tag ∧ kind.Garbled (bodyOf buffer) := by
  rw [decode_eq kind.tag kind.reader header inside, ← MessageKind.faulty]
  constructor
  · rintro ⟨fault, after, decoded⟩
    split at decoded
    · next tagged =>
      split at decoded
      · cases decoded
      · next error rest read =>
        cases decoded
        exact ⟨tagged, fault, rest, read⟩
    · cases decoded
  · rintro ⟨tagged, fault, rest, read⟩
    rw [if_pos tagged, read]
    exact ⟨fault, _, rfl⟩

theorem decode_ends (header : headerSize ≤ buffer.limit) (inside : buffer.limit ≤ buffer.capacity) :
    (∃ value after, decode kind.tag kind.reader buffer = .ok value after) ∨
      (∃ fault after, decode kind.tag kind.reader buffer = .error (.failed (.utf8 fault)) after) ∨
      ∃ violation after,
        decode kind.tag kind.reader buffer = .error (.failed (.violation violation)) after := by
  rw [decode_eq kind.tag kind.reader header inside]
  split
  · cases kind.reader (bodyOf buffer) with
    | ok value rest => exact .inl ⟨value, _, rfl⟩
    | error error rest =>
      cases error with
      | violation violation => exact .inr (.inr ⟨violation, _, rfl⟩)
      | utf8 fault => exact .inr (.inl ⟨fault, _, rfl⟩)
  · exact .inr (.inr ⟨_, _, rfl⟩)

/-- Where the cursor stands is of no importance for a message of the right kind. -/
theorem decode_moved (header : headerSize ≤ buffer.limit) (inside : buffer.limit ≤ buffer.capacity)
    (tagged : byteAt buffer 0 = kind.tag) (position : Nat) :
    decode kind.tag kind.reader { buffer with position } = decode kind.tag kind.reader buffer := by
  let moved : Buffer := { buffer with position }
  have header' : headerSize ≤ moved.limit := header
  have tagged' : byteAt moved 0 = kind.tag := tagged
  rw [decode_eq kind.tag kind.reader header inside, if_pos tagged,
    decode_eq kind.tag kind.reader header' inside, if_pos tagged']
  rfl

/-- Decoding moves the cursor at most, and may be done again. -/
theorem decode_again (header : headerSize ≤ buffer.limit) (inside : buffer.limit ≤ buffer.capacity) :
    match decode kind.tag kind.reader buffer with
    | .ok _ after | .error _ after =>
      after = { buffer with position := after.position } ∧
        decode kind.tag kind.reader after = decode kind.tag kind.reader buffer := by
  cases decoded : decode kind.tag kind.reader buffer with
  | ok value after =>
    obtain ⟨front, bears, rfl⟩ := (decode_ok_iff kind header inside value after).mp decoded
    exact ⟨rfl, (decode_moved kind header inside bears.tag _).trans decoded⟩
  | error halt after =>
    have stopped := decoded
    rw [decode_eq kind.tag kind.reader header inside] at stopped
    split at stopped
    · next tagged =>
      split at stopped
      · cases stopped
      · cases stopped
        exact ⟨rfl, (decode_moved kind header inside tagged _).trans decoded⟩
    · cases stopped
      exact ⟨rfl, decoded⟩

end

/-- A buffered message is decoded exactly if it has the tag and its body begins with an encoding,
which is then the only one; the cursor stops behind it. Of the two kinds of errors, it is the one
for encodings exactly if the first field that cannot be read is a text with an end. Nothing but the
cursor moves, and decoding once more gives the same. -/
theorem decode_grammar (kind : MessageKind) {buffer : Buffer} (header : headerSize ≤ buffer.limit)
    (inside : buffer.limit ≤ buffer.capacity) :
    let decoded := decode kind.tag kind.reader buffer
    (∀ value after, decoded = .ok value after ↔ ∃ front, Bears kind value front buffer ∧
      after = { buffer with position := headerSize + front.length }) ∧
    (∀ value front value' front', Bears kind value front buffer → Bears kind value' front' buffer →
      value' = value ∧ front' = front) ∧
    ((∃ fault after, decoded = .error (.failed (.utf8 fault)) after) ↔
      byteAt buffer 0 = kind.tag ∧ kind.Garbled (bodyOf buffer)) ∧
    ((∃ violation after, decoded = .error (.failed (.violation violation)) after) ↔
      (¬ ∃ value front, Bears kind value front buffer) ∧
        ¬ (byteAt buffer 0 = kind.tag ∧ kind.Garbled (bodyOf buffer))) ∧
    match decoded with
    | .ok _ after | .error _ after => after = { buffer with position := after.position } ∧
      decode kind.tag kind.reader after = decoded := by
  intro decoded
  have ok := decode_ok_iff kind header inside
  have garbled := decode_garbled_iff kind header inside
  refine ⟨ok, fun value front value' front' bears bears' =>
    MessageKind.unique bears.encodes bears'.encodes bears.begins bears'.begins, garbled, ⟨?_, ?_⟩,
    decode_again kind header inside⟩
  · rintro ⟨violation, after, refused⟩
    constructor
    · rintro ⟨value, front, bears⟩
      have accepted : decoded = .ok value _ := (ok value _).mpr ⟨front, bears, rfl⟩
      rw [refused] at accepted
      cases accepted
    · intro both
      obtain ⟨fault, after', faulty⟩ := garbled.mpr both
      change decoded = _ at faulty
      rw [refused] at faulty
      cases faulty
  · rintro ⟨unread, clean⟩
    rcases decode_ends kind header inside with ⟨value, after, read⟩ | faulty | refused
    · obtain ⟨front, bears, -⟩ := (ok value after).mp read
      exact absurd ⟨value, front, bears⟩ unread
    · exact absurd (garbled.mp faulty) clean
    · exact refused

private def repeated : List (UInt8 × String) := [(67, "a"), (83, ""), (67, "b")]

private def repeatedBytes : List UInt8 := [67, 97, 0, 83, 0, 67, 98, 0]

private theorem repeated_entries : Entries repeated repeatedBytes :=
  .cons (by decide) ⟨by decide, rfl⟩ (.cons (by decide) ⟨by decide, rfl⟩
    (.cons (by decide) ⟨by decide, rfl⟩ .nil))

private def repeatedNotice : Notice := ⟨insertAll .empty repeated⟩

private def surrounded : Buffer where
  stored := [78, 255, 255, 255, 255] ++ repeatedBytes ++ [0] ++ [88, 0, 200]
  capacity := 1024
  position := 3
  limit := 17
  step := 1024
  pending := [2]

/-- A notice with a code that comes twice and a text that is empty, and with more behind its end. -/
theorem decode_grammar_repeated : headerSize ≤ surrounded.limit ∧
    surrounded.limit ≤ surrounded.capacity ∧ repeatedNotice.field? 'C' = some "b" ∧
    decode Tag.notice Reader.notice surrounded =
      .ok repeatedNotice { surrounded with position := 14 } := by
  have bears : Bears .notice repeatedNotice (repeatedBytes ++ [0]) surrounded :=
    ⟨by decide +kernel, listing_insertAll repeated_entries, by decide +kernel⟩
  have header : headerSize ≤ surrounded.limit := by decide
  have inside : surrounded.limit ≤ surrounded.capacity := by decide
  obtain ⟨accepted, -⟩ := decode_grammar .notice header inside
  exact ⟨header, inside, by decide +kernel,
    (accepted repeatedNotice _).mpr ⟨repeatedBytes ++ [0], bears, rfl⟩⟩

end PgSession.Proofs
