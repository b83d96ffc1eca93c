import PgSession.Proofs.AcceptedFrames

/-!
The streams on which a handshake succeeds, exactly: an answer to the request for encryption, an
exchange that ends with the server being satisfied, and one that ends with the server being ready.
What the session then knows is what those frames report, and whatever follows them is left unread.
-/

namespace PgSession.Proofs
open Wire Session

variable {τ : Type}

/-- The messages made from these settings can be written. -/
structure Expressible (config : Config) : Prop where
  startup : Sendable (startupMessage config)
  password : ∀ password, config.password = some password → Sendable (.password password)

private theorem password_sendable_iff {credential : String} : Sendable (.password credential) ↔
    4 + ((Text.utf8 credential).length + 1) ≤ Buffer.maxLength := by
  simp [Sendable, FrontendMessage.items, fitsAll, Item.fits, Item.encodeAll, Item.encode]

private theorem encodeChar_length_le (char : Char) : (Text.encodeChar char).length ≤ 4 := by
  unfold Text.encodeChar
  dsimp only
  repeat' split
  all_goals simp

private theorem utf8_length_le (text : String) : (Text.utf8 text).length ≤ 4 * text.length := by
  rw [Text.utf8, ← String.length_toList]
  induction text.toList with
  | nil => exact Nat.le_refl _
  | cons char chars ih =>
    have first := encodeChar_length_le char
    simp only [List.flatMap_cons, List.length_append, List.length_cons]
    omega

private theorem hex_length (bytes : List UInt8) : (Text.hex bytes).length = 2 * bytes.length := by
  rw [Text.hex, String.length_ofList]
  induction bytes with
  | nil => rfl
  | cons byte bytes ih =>
    simp only [List.flatMap_cons, List.length_append, ih, Text.hexByte, List.length_cons,
      List.length_nil]
    omega

private theorem littleEndian_length (count value : Nat) :
    (Digest.Md5.littleEndian count value).length = count := by
  induction count generalizing value with
  | zero => rfl
  | succ count ih => simp only [Digest.Md5.littleEndian, List.length_cons, ih]

theorem md5_length (message : List UInt8) : (Digest.md5 message).length = 16 := by
  simp [Digest.md5, Digest.Md5.bytes, littleEndian_length]

example : Text.hex (Digest.md5 (Text.utf8 "abcdefghijklmnopqrstuvwxyz")) =
    "c3fcd3d76192e4007dfb496cca67e13b" := by
  decide +kernel

/-- The answer to a salted challenge is short, however long the password. -/
theorem md5_sendable (user password : String) (salt : List UInt8) :
    Sendable (.password (md5Credential user password salt)) := by
  rw [password_sendable_iff]
  have length : (md5Credential user password salt).length = 35 := by
    simp only [md5Credential, String.length_append, hex_length, md5_length]
    rfl
  have bound := utf8_length_le (md5Credential user password salt)
  rw [length] at bound
  simp only [Buffer.maxLength]
  omega

theorem Expressible.reply {config : Config} (expressible : Expressible config)
    {challenge : Authentication} {answer : String}
    (replied : reply config challenge = .ok (some answer)) :
    Sendable (.password answer) := by
  unfold Session.reply at replied
  split at replied
  · cases replied
  · cases replied
  · next password found =>
    cases replied
    exact expressible.password answer found
  · cases replied
    exact md5_sendable ..

namespace Frame

/-- Asks for the password as it is, or for its digest together with a salt. -/
def Challenge (frame : Frame) : Prop :=
  frame.tag = Tag.authentication ∧ ∃ rest, frame.body = int32 3 ++ rest ∨
    ∃ salt : List UInt8, salt.length = saltSize ∧ frame.body = int32 5 ++ salt ++ rest

def Satisfied (frame : Frame) : Prop :=
  frame.tag = Tag.authentication ∧ ∃ rest, frame.body = int32 0 ++ rest

def Key (frame : Frame) : Prop := frame.tag = Tag.keyData ∧ 8 ≤ frame.body.length

def Ready (status : TransactionStatus) (frame : Frame) : Prop :=
  frame.tag = Tag.readyForQuery ∧ ∃ byte rest, frame.body = byte :: rest ∧
    (byte = 'I'.toUInt8 ∧ status = .idle ∨ byte = 'T'.toUInt8 ∧ status = .inTransaction ∨
      byte = 'E'.toUInt8 ∧ status = .failed)

end Frame

/-- What the server may say to the request for encryption, if there is one. -/
def SslAnswer : SslMode → List UInt8 → Prop
  | .disable, answer => answer = []
  | .prefer, answer => answer = [sslAccepted] ∨ answer = [sslRefused]
  | .require, answer => answer = [sslAccepted]

/-- An exchange that ends with the server being satisfied. It may ask for a password only if there
is one. -/
def Authenticates (config : Config) : List Frame → Prop :=
  Exchange config (fun frame => config.password ≠ none ∧ frame.Challenge) Frame.Satisfied

/-- An exchange that ends with the server being ready, in this state. -/
def Readies (config : Config) (status : TransactionStatus) : List Frame → Prop :=
  Exchange config Frame.Key (Frame.Ready status)

namespace Accepts

variable {around : Surroundings τ} [Transport τ]

theorem write (reliable : Reliable around.served around.live) (bytes : List UInt8) (timeout : Nat) :
    Silent around (onChannel (Channel.write bytes timeout)) := by
  apply silent
  intro stream report session stands
  obtain ⟨link, wrote, live, rest⟩ := reliable.writes bytes timeout stands.live
  exact ⟨_, write_ok wrote, stands.config, live, stands.willing, rest.trans stands.stream,
    stands.report⟩

theorem send (reliable : Reliable around.served around.live) {message : FrontendMessage}
    (sendable : Sendable message) : Silent around (Unbuffered.send message) := by
  rw [Unbuffered.send, if_pos sendable]
  exact after (say _ _) (get fun session _ => write reliable _ _)

theorem read (reliable : Reliable around.served around.live) (count timeout : Nat) :
    Accepts around (onChannel (Channel.read count timeout)) fun value bytes report report' =>
      value.length = count ∧ bytes = value ∧ report' = report where
  sound := by
    intro stream report session value session' stands done
    cases ran : Transport.read session.channel.link count timeout with
    | mk result link =>
      cases result with
      | error error =>
        rw [read_failed ran] at done
        cases done
      | ok found =>
        rw [read_ok ran] at done
        cases done
        obtain ⟨length, next, live⟩ := reliable.read stands.live ran
        exact ⟨value, _, report, stands.stream ▸ next, ⟨length, rfl, rfl⟩, stands.config, live,
          stands.willing, rfl, stands.report⟩
  complete := by
    rintro value bytes rest report report' session stands ⟨rfl, rfl, rfl⟩
    obtain ⟨link, ran, live, left⟩ := reliable.reads stands.live stands.stream timeout
    exact ⟨_, read_ok ran, stands.config, live, stands.willing, left, stands.report⟩

theorem upgrade (reliable : Reliable around.served around.live) :
    Accepts around (attempt (onChannel Channel.upgrade)) fun result bytes report report' =>
      result = .ok () ∧ bytes = [] ∧ report' = report := by
  refine steady id fun stream report session stands => ?_
  obtain ⟨link, ran, live, rest⟩ := reliable.upgrades stands.live
  exact ⟨_, attempt_done (upgrade_ok ran), stands.config, live, stands.willing,
    rest.trans stands.stream, stands.report⟩

/-- Of the bytes that may answer the request only one, or two, are any good. -/
private theorem judge (required : Bool) (answer : UInt8) :
    Accepts around (if answer = sslAccepted then return true
      else if answer = sslRefused then
        if required then fail (.ofConfig .sslNotSupported)
        else do
          Session.say .info "Ssl refused by backend, continuing unencrypted"
          return false
      else fail (.ofViolation (.unknownSslAnswer answer)))
      fun accepted bytes report report' => bytes = [] ∧ report' = report ∧
        (accepted = true ∧ answer = sslAccepted ∨
          accepted = false ∧ required = false ∧ answer = sslRefused) := by
  by_cases yes : answer = sslAccepted
  · rw [if_pos yes]
    refine (pure true).congr fun accepted bytes report report' => ⟨?_, ?_⟩
    · rintro ⟨rfl, rfl, rfl⟩
      exact ⟨rfl, rfl, .inl ⟨rfl, yes⟩⟩
    · rintro ⟨rfl, rfl, ⟨rfl, -⟩ | ⟨-, -, rfl⟩⟩
      · exact ⟨rfl, rfl, rfl⟩
      · cases yes
  rw [if_neg yes]
  by_cases no : answer = sslRefused
  · rw [if_pos no]
    cases required with
    | false =>
      refine after (say _ _) ((pure false).congr fun accepted bytes report report' => ⟨?_, ?_⟩)
      · rintro ⟨rfl, rfl, rfl⟩
        exact ⟨rfl, rfl, .inr ⟨rfl, rfl, no⟩⟩
      · rintro ⟨rfl, rfl, ⟨-, same⟩ | ⟨rfl, -⟩⟩
        · exact absurd same yes
        · exact ⟨rfl, rfl, rfl⟩
    | true =>
      refine throw fun accepted bytes report report' => ?_
      rintro ⟨-, -, ⟨-, same⟩ | ⟨-, impossible, -⟩⟩
      · exact yes same
      · cases impossible
  · rw [if_neg no]
    refine throw fun accepted bytes report report' => ?_
    rintro ⟨-, -, ⟨-, same⟩ | ⟨-, -, same⟩⟩
    · exact yes same
    · exact no same

theorem requestSsl (reliable : Reliable around.served around.live) (required : Bool) :
    Accepts around (Unbuffered.requestSsl required) fun accepted bytes report report' =>
      report' = report ∧ (accepted = true ∧ bytes = [sslAccepted] ∨
        accepted = false ∧ required = false ∧ bytes = [sslRefused]) := by
  unfold Unbuffered.requestSsl
  apply after (say _ _)
  apply after (send reliable (by decide))
  apply get
  intro session _
  refine ((read reliable 1 session.config.timeout).bind fun answer =>
    judge required (answer.headD 0)).congr fun accepted bytes report report' => ?_
  constructor
  · rintro ⟨_, _, answer, _, rfl, ⟨length, rfl, rfl⟩, rfl, rfl, taken⟩
    match answer, length with
    | [byte], _ =>
      refine ⟨rfl, ?_⟩
      simpa using taken
  · rintro ⟨rfl, taken⟩
    refine ⟨bytes, report', bytes, [], (List.append_nil _).symm, ?_⟩
    rcases taken with ⟨rfl, rfl⟩ | ⟨rfl, optional, rfl⟩
    · exact ⟨⟨rfl, rfl, rfl⟩, rfl, rfl, .inl ⟨rfl, rfl⟩⟩
    · exact ⟨⟨rfl, rfl, rfl⟩, rfl, rfl, .inr ⟨rfl, optional, rfl⟩⟩

theorem negotiate (reliable : Reliable around.served around.live) (required : Bool) :
    Accepts around (Unbuffered.negotiate required) fun _ bytes report report' =>
      report' = report ∧
        (bytes = [sslAccepted] ∨ required = false ∧ bytes = [sslRefused]) := by
  unfold Unbuffered.negotiate
  refine ((guarded .ssl (requestSsl reliable required)).bindGiven (fun _ _ => .nothing) ?_).congr ?_
  · intro accepted _ _ _ _
    cases accepted with
    | true =>
      refine after (say _ _) (((upgrade reliable).bindGiven (fun _ _ => .nothing) ?_).congr ?_)
      · rintro result _ _ _ ⟨rfl, -, -⟩
        exact silent fun _ _ session stands => ⟨session, rfl, stands⟩
      · intro _ bytes report report'
        constructor
        · rintro ⟨_, _, _, _, rfl, ⟨-, rfl, rfl⟩, rfl, rfl⟩
          exact ⟨rfl, rfl⟩
        · rintro ⟨rfl, rfl⟩
          exact ⟨.ok (), _, [], [], rfl, ⟨rfl, rfl, rfl⟩, rfl, rfl⟩
    | false => exact silent fun _ _ session stands => ⟨session, rfl, stands⟩
  intro _ bytes report report'
  constructor
  · rintro ⟨accepted, _, _, _, rfl, ⟨rfl, taken⟩, rfl, rfl⟩
    rw [List.append_nil]
    rcases taken with ⟨-, yes⟩ | ⟨-, optional, no⟩
    · exact ⟨rfl, .inl yes⟩
    · exact ⟨rfl, .inr ⟨optional, no⟩⟩
  · rintro ⟨rfl, yes | ⟨optional, no⟩⟩
    · exact ⟨true, _, bytes, [], (List.append_nil _).symm, ⟨rfl, .inl ⟨rfl, yes⟩⟩, rfl, rfl⟩
    · exact ⟨false, _, bytes, [], (List.append_nil _).symm, ⟨rfl, .inr ⟨rfl, optional, no⟩⟩, rfl, rfl⟩

theorem secure (reliable : Reliable around.served around.live) :
    Accepts around Unbuffered.secure fun _ bytes report report' =>
      SslAnswer around.config.ssl bytes ∧ report' = report := by
  unfold Unbuffered.secure
  apply get
  intro session same
  rw [same]
  cases around.config.ssl with
  | disable => exact silent fun _ _ session stands => ⟨session, rfl, stands⟩
  | prefer =>
    refine (negotiate reliable false).congr fun _ bytes report report' => ?_
    simp [SslAnswer, and_comm]
  | require =>
    refine (negotiate reliable true).congr fun _ bytes report report' => ?_
    simp [SslAnswer, and_comm]

theorem sendStartup (reliable : Reliable around.served around.live)
    (expressible : Expressible around.config) : Silent around Unbuffered.sendStartup := by
  apply guarded
  apply after (say _ _)
  apply get
  intro session same
  rw [same]
  exact send reliable expressible.startup

private theorem satisfied_iff {frame : Frame} : frame.Satisfied ↔
    frame.tag = Tag.authentication ∧ frame.decode Reader.authentication = .ok .ok := by
  apply and_congr_right
  intro _
  rw [Frame.decode_ok_iff]
  constructor
  · rintro ⟨rest, same⟩
    exact ⟨rest, authentication_ok_iff.mpr ⟨same, nofun⟩⟩
  · rintro ⟨rest, read⟩
    exact ⟨rest, (authentication_ok_iff.mp read).1⟩

private theorem challenge_iff {frame : Frame} : frame.Challenge ↔ frame.tag = Tag.authentication ∧
    ∃ challenge, challenge ≠ .ok ∧ frame.decode Reader.authentication = .ok challenge := by
  apply and_congr_right
  intro _
  simp only [Frame.decode_ok_iff]
  constructor
  · rintro ⟨rest, same | ⟨salt, sized, same⟩⟩
    · exact ⟨.cleartextPassword, nofun, rest, authentication_ok_iff.mpr ⟨same, nofun⟩⟩
    · refine ⟨.md5Password salt, nofun, rest, authentication_ok_iff.mpr ⟨same, ?_⟩⟩
      rintro _ ⟨⟩
      exact sized
  · rintro ⟨challenge, asks, rest, read⟩
    obtain ⟨same, sized⟩ := authentication_ok_iff.mp read
    cases challenge with
    | ok => exact absurd rfl asks
    | cleartextPassword => exact ⟨rest, .inl same⟩
    | md5Password salt => exact ⟨rest, .inr ⟨salt, sized salt rfl, same⟩⟩

/-- A challenge is answered if it asks for something and there is a password. -/
private theorem answer (reliable : Reliable around.served around.live)
    (expressible : Expressible around.config) (challenge : Authentication) :
    Accepts around (match reply around.config challenge with
      | .error error => fail (.ofConfig error)
      | .ok none => return some ()
      | .ok (some answer) => do
        Unbuffered.send (.password answer)
        return none)
      fun result bytes report report' => bytes = [] ∧ report' = report ∧
        ((around.config.password ≠ none ∧ challenge ≠ .ok) ∧ result = none ∨
          challenge = .ok ∧ result = some ()) := by
  have sends : ∀ answer, reply around.config challenge = .ok (some answer) →
      Silent around (Unbuffered.send (.password answer)) :=
    fun answer replied => send reliable (expressible.reply replied)
  unfold Session.reply at *
  cases challenge with
  | ok =>
    refine (pure (some ())).congr fun result bytes report report' => ⟨?_, ?_⟩
    · rintro ⟨rfl, rfl, rfl⟩
      exact ⟨rfl, rfl, .inr ⟨rfl, rfl⟩⟩
    · rintro ⟨rfl, rfl, ⟨⟨-, impossible⟩, -⟩ | ⟨-, rfl⟩⟩
      · exact absurd rfl impossible
      · exact ⟨rfl, rfl, rfl⟩
  | cleartextPassword | md5Password salt =>
    cases password : around.config.password with
    | none =>
      refine throw fun result bytes report report' => ?_
      rintro ⟨-, -, ⟨⟨set, -⟩, -⟩ | ⟨impossible, -⟩⟩
      · exact set rfl
      · cases impossible
    | some password =>
      rw [‹around.config.password = _›] at sends
      refine (after (sends _ rfl) (pure none)).congr fun result bytes report report' => ⟨?_, ?_⟩
      · rintro ⟨rfl, rfl, rfl⟩
        exact ⟨rfl, rfl, .inl ⟨⟨nofun, nofun⟩, rfl⟩⟩
      · rintro ⟨rfl, rfl, ⟨-, rfl⟩ | ⟨impossible, -⟩⟩
        · exact ⟨rfl, rfl, rfl⟩
        · cases impossible

theorem authentication (reliable : Reliable around.served around.live)
    (expressible : Expressible around.config) :
    Reacts around Unbuffered.onAuthentication
      (fun frame => around.config.password ≠ none ∧ frame.Challenge) Frame.Satisfied where
  solicited := by
    intro frame expected
    have tag : frame.tag = Tag.authentication := by
      rcases expected with ⟨-, challenge⟩ | satisfied
      · exact challenge.1
      · exact satisfied.1
    apply Frame.general_none <;> rw [tag] <;> decide
  accepts := by
    intro frame general
    unfold Unbuffered.onAuthentication
    by_cases tag : frame.tag = Tag.authentication
    · have plain : ∀ report : Report, report.hear frame = report := by
        intro report
        apply Report.hear_other <;> rw [tag] <;> decide
      rw [if_pos tag]
      simp only [plain, satisfied_iff, challenge_iff, tag, true_and]
      cases frame.decode Reader.authentication with
      | error error => exact throw fun _ _ _ _ => by simp
      | ok challenge =>
        refine ensured (after (say _ _) (get fun session same => ?_))
        rw [same]
        refine (answer reliable expressible challenge).congr fun result bytes report report' => ?_
        simp [eq_comm]
    · rw [if_neg tag]
      refine throw fun result bytes report report' => ?_
      rintro ⟨-, -, ⟨⟨-, challenge⟩, -⟩ | ⟨satisfied, -⟩⟩
      · exact tag challenge.1
      · exact tag satisfied.1

theorem authenticate (reliable : Reliable around.served around.live)
    (expressible : Expressible around.config) :
    Accepts around Unbuffered.authenticate fun _ bytes report report' =>
      ∃ frames, Authenticates around.config frames ∧ bytes = frames.flatMap Frame.bytes ∧
        report' = frames.foldl Report.hear report :=
  guarded _ (waiting reliable (authentication reliable expressible) _)

private theorem key_iff {frame : Frame} : frame.Key ↔
    frame.tag = Tag.keyData ∧ ∃ key, frame.decode Reader.keyData = .ok key := by
  apply and_congr_right
  intro _
  simp only [Frame.decode_ok_iff]
  constructor
  · exact keyData_reads
  · rintro ⟨key, rest, read⟩
    rw [keyData_ok_iff.mp read]
    simp only [List.length_append, int32_length]
    omega

private theorem ready_iff {frame : Frame} {status : TransactionStatus} : frame.Ready status ↔
    frame.tag = Tag.readyForQuery ∧ frame.decode Reader.transactionStatus = .ok status := by
  apply and_congr_right
  intro _
  simp only [Frame.decode_ok_iff, transactionStatus_ok_iff, ofByte_ok_iff]
  exact exists_comm.trans (exists_congr fun rest => Iff.rfl)

omit [Transport τ] in
theorem readiness :
    Reacts around Unbuffered.onReady Frame.Key fun frame => ∃ status, frame.Ready status where
  solicited := by
    intro frame expected
    rcases expected with ⟨tag, -⟩ | ⟨status, tag, -⟩
    all_goals apply Frame.general_none <;> rw [tag] <;> decide
  accepts := by
    intro frame general
    unfold Unbuffered.onReady
    by_cases key : frame.tag = Tag.keyData
    · have other : ∀ status, ¬ frame.Ready status := by
        rintro status ⟨tag, -⟩
        exact absurd (key.symm.trans tag) (by decide)
      rw [if_pos key]
      refine (ensuredThen _ (fun found session => { session with key := some found })
        (fun found report => { report with key := some found }) (fun _ _ => ⟨rfl, rfl, rfl⟩)
        (fun _ _ => rfl) none).congr fun result bytes report report' => ⟨?_, ?_⟩
      · rintro ⟨found, read, rfl, rfl, rfl⟩
        rw [Report.hear_key key read]
        exact ⟨rfl, rfl, .inl ⟨key_iff.mpr ⟨key, found, read⟩, rfl⟩⟩
      · rintro ⟨rfl, rfl, ⟨expected, rfl⟩ | ⟨⟨status, expected⟩, -⟩⟩
        · obtain ⟨-, found, read⟩ := key_iff.mp expected
          rw [Report.hear_key key read]
          exact ⟨found, read, rfl, rfl, rfl⟩
        · exact absurd expected (other status)
    rw [if_neg key]
    by_cases ready : frame.tag = Tag.readyForQuery
    · rw [if_pos ready]
      refine (ensuredThen _ (fun found session => { session with status := some found })
        (fun found report => { report with status := some found }) (fun _ _ => ⟨rfl, rfl, rfl⟩)
        (fun _ _ => rfl) (some ())).congr fun result bytes report report' => ⟨?_, ?_⟩
      · rintro ⟨found, read, rfl, rfl, rfl⟩
        rw [Report.hear_status ready read]
        exact ⟨rfl, rfl, .inr ⟨⟨found, ready_iff.mpr ⟨ready, read⟩⟩, rfl⟩⟩
      · rintro ⟨rfl, rfl, ⟨expected, -⟩ | ⟨⟨status, expected⟩, rfl⟩⟩
        · exact absurd expected.1 key
        · have read := (ready_iff.mp expected).2
          rw [Report.hear_status ready read]
          exact ⟨status, read, rfl, rfl, rfl⟩
    · rw [if_neg ready]
      refine throw fun result bytes report report' => ?_
      rintro ⟨-, -, ⟨expected, -⟩ | ⟨⟨status, expected⟩, -⟩⟩
      · exact key expected.1
      · exact ready expected.1

theorem becomeReady (reliable : Reliable around.served around.live) :
    Accepts around Unbuffered.becomeReady fun _ bytes report report' =>
      ∃ frames, Exchange around.config Frame.Key (fun frame => ∃ status, frame.Ready status) frames ∧
        bytes = frames.flatMap Frame.bytes ∧ report' = frames.foldl Report.hear report :=
  before (guarded _ (waiting reliable readiness _)) (say _ _)

theorem handshake (reliable : Reliable around.served around.live)
    (expressible : Expressible around.config) :
    Accepts around Unbuffered.handshake fun _ bytes report report' =>
      ∃ answer authentication afterwards, SslAnswer around.config.ssl answer ∧
        Authenticates around.config authentication ∧
        Exchange around.config Frame.Key (fun frame => ∃ status, frame.Ready status) afterwards ∧
        bytes = answer ++ authentication.flatMap Frame.bytes ++ afterwards.flatMap Frame.bytes ∧
        report' = (authentication ++ afterwards).foldl Report.hear report := by
  refine ((secure reliable).bind fun _ => after (sendStartup reliable expressible)
    ((authenticate reliable expressible).bind fun _ => becomeReady reliable)).congr ?_
  intro _ bytes report report'
  constructor
  · rintro ⟨_, _, answer, _, rfl, ⟨answered, rfl⟩, _, _, _, _, rfl,
      ⟨authentication, authenticates, rfl, rfl⟩, ⟨afterwards, ready, rfl, rfl⟩⟩
    exact ⟨answer, authentication, afterwards, answered, authenticates, ready,
      (List.append_assoc ..).symm, (List.foldl_append ..).symm⟩
  · rintro ⟨answer, authentication, afterwards, answered, authenticates, ready, rfl, rfl⟩
    exact ⟨(), report, answer, _, List.append_assoc .., ⟨answered, rfl⟩, (), _, _, _, rfl,
      ⟨authentication, authenticates, rfl, rfl⟩, ⟨afterwards, ready, rfl, List.foldl_append ..⟩⟩

end Accepts

private theorem Readies.exists_iff {config : Config} {frames : List Frame} :
    Exchange config Frame.Key (fun frame => ∃ status, frame.Ready status) frames ↔
      ∃ status, Readies config status frames := by
  constructor
  · rintro ⟨before, final, split, within, going, status, ready⟩
    exact ⟨status, before, final, split, within, going, ready⟩
  · rintro ⟨status, before, final, split, within, going, ready⟩
    exact ⟨before, final, split, within, going, status, ready⟩

theorem Frame.Unsolicited.key {frame : Frame} (unsolicited : frame.Unsolicited) :
    frame.key? = none := by
  rcases unsolicited with ⟨tag, -⟩ | ⟨tag, -⟩ | ⟨tag, -⟩
  all_goals
    apply Frame.reads?_other
    rw [tag]
    decide

/-- No key is reported before the server is satisfied. -/
theorem Authenticates.keys {config : Config} {frames : List Frame}
    (authenticates : Authenticates config frames) : frames.filterMap Frame.key? = [] := by
  obtain ⟨before, final, rfl, -, going, satisfied⟩ := authenticates
  have asking : ∀ frame : Frame, frame.tag = Tag.authentication → frame.key? = none := by
    intro frame tag
    apply Frame.reads?_other
    rw [tag]
    decide
  rw [List.filterMap_eq_nil_iff]
  intro frame member
  rcases List.mem_append.mp member with earlier | last
  · rcases going frame earlier with unsolicited | ⟨-, challenge⟩
    · exact unsolicited.key
    · exact asking frame challenge.1
  · rw [List.mem_singleton.mp last]
    exact asking final satisfied.1

/-- What the server has told by the time it is ready. -/
private theorem reported_by {config : Config} {authentication afterwards : List Frame}
    {status : TransactionStatus} (authenticates : Authenticates config authentication)
    (ready : Readies config status afterwards) :
    (authentication ++ afterwards).foldl Report.hear .empty =
      ⟨((authentication ++ afterwards).filterMap Frame.parameter?).foldl
        (fun parameters status => parameters.set status.name status.value) .empty,
        some status, (afterwards.filterMap Frame.key?).getLast?⟩ := by
  have parameters := Report.hear_parameters (authentication ++ afterwards) .empty
  have keys := Report.hear_keys (authentication ++ afterwards) .empty
  rw [List.filterMap_append, authenticates.keys, List.nil_append] at keys
  have last : ((authentication ++ afterwards).foldl Report.hear .empty).status = some status := by
    obtain ⟨before, final, rfl, -, -, final_ready⟩ := ready
    obtain ⟨tag, read⟩ := Accepts.ready_iff.mp final_ready
    rw [← List.append_assoc, List.foldl_append, List.foldl_cons, List.foldl_nil,
      Report.hear_status tag read]
  exact Report.ext parameters last (keys.trans Option.or_none)

variable [Transport τ]

private theorem new_willing (config : Config) (link : τ) :
    Willing (Session.new config link).buses := by
  obtain ⟨buses, fresh, responses⟩ := new_eq config link
  rw [fresh]
  exact fun topic entry member seen => (responses topic entry member seen).1

/-- A handshake succeeds exactly on the streams that begin with an answer the settings allow for, an
exchange that authenticates and one that ends in readiness. It takes these and no more, and knows
what they report. -/
theorem handshake_accepts {served : τ → List UInt8} {live : τ → Prop}
    (reliable : Reliable served live) {config : Config} (expressible : Expressible config) {link : τ}
    (alive : live link) {buses : Buses} (willing : Willing buses) (rest : List UInt8)
    (parameters : Parameters) (status : Option TransactionStatus) (key : Option KeyData) :
    (∃ session', Session.handshake { Session.new config link with buses } = .ok () session' ∧
      served session'.channel.link = rest ∧ session'.parameters = parameters ∧
      session'.status = status ∧ session'.key = key) ↔
    ∃ answer authentication afterwards current,
      served link = answer ++ authentication.flatMap Frame.bytes ++
        afterwards.flatMap Frame.bytes ++ rest ∧
      SslAnswer config.ssl answer ∧ Authenticates config authentication ∧
      Readies config current afterwards ∧
      parameters = ((authentication ++ afterwards).filterMap Frame.parameter?).foldl
        (fun parameters status => parameters.set status.name status.value) .empty ∧
      status = some current ∧ key = (afterwards.filterMap Frame.key?).getLast? := by
  obtain ⟨others, fresh, -⟩ := new_eq config link
  rw [fresh]
  let begun : Session τ :=
    ⟨config, .ofLink link, .new config.bufferStep, buses, .empty, none, none⟩
  change (∃ session', Session.handshake begun = .ok () session' ∧ _) ↔ _
  have sound : Sound begun.buffer := Sound.new _
  obtain ⟨buffer, -, ran⟩ := Means.handshake.refines.run sound
  let around : Surroundings τ := ⟨served, live, config⟩
  have accepts : Accepts around Unbuffered.handshake _ := Accepts.handshake reliable expressible
  have stands : Stands around (served link) .empty begun := ⟨rfl, alive, willing, rfl, rfl⟩
  rw [ran]
  constructor
  · rintro ⟨session', done, rfl, rfl, rfl, rfl⟩
    cases direct : Unbuffered.handshake begun with
    | error halt between =>
      rw [direct] at done
      cases done
    | ok nothing between =>
      rw [direct] at done
      cases done
      obtain ⟨bytes, rest, report, split, taken, stands'⟩ := accepts.sound stands direct
      obtain ⟨answer, authentication, afterwards, answered, authenticates, exchange, rfl, rfl⟩ :=
        taken
      obtain ⟨current, ready⟩ := Readies.exists_iff.mp exchange
      have report := stands'.report
      rw [reported_by authenticates ready] at report
      refine ⟨answer, authentication, afterwards, current, ?_, answered, authenticates, ready,
        congrArg Report.parameters report, congrArg Report.status report,
        congrArg Report.key report⟩
      rw [split, ← stands'.stream]
  · rintro ⟨answer, authentication, afterwards, current, split, answered, authenticates, ready, rfl,
      rfl, rfl⟩
    rw [split] at stands
    obtain ⟨between, direct, stands'⟩ := accepts.complete stands ⟨answer, authentication,
      afterwards, answered, authenticates, Readies.exists_iff.mpr ⟨current, ready⟩, rfl, rfl⟩
    have report := stands'.report
    rw [reported_by authenticates ready] at report
    rw [direct]
    exact ⟨{ between with buffer }, rfl, stands'.stream, congrArg Report.parameters report,
      congrArg Report.status report, congrArg Report.key report⟩

private def dialogueConfig : Config := { user := "ada", password := some "secret", ssl := .prefer }

private def dialogueStart : List Frame :=
  [⟨Tag.notice, [0]⟩, ⟨Tag.authentication, int32 5 ++ [1, 2, 3, 4]⟩]

private def dialogueKeys : List Frame :=
  [⟨Tag.keyData, int32 1 ++ int32 2⟩, ⟨Tag.keyData, int32 7 ++ int32 9⟩]

private def dialogueSatisfied : Frame := ⟨Tag.authentication, int32 0⟩
private def dialogueReady : Frame := ⟨Tag.readyForQuery, [73]⟩

private def dialogue : Script where
  served := [sslRefused] ++ (dialogueStart ++ [dialogueSatisfied]).flatMap Frame.bytes ++
    (dialogueKeys ++ [dialogueReady]).flatMap Frame.bytes ++ [42]

/-- A server that refuses encryption, says something, asks for a digest and gives two keys. -/
theorem handshake_accepts_dialogue : ∃ session',
    Session.handshake (Session.new dialogueConfig dialogue) = .ok () session' ∧
      session'.channel.link.served = [42] ∧ session'.status = some .idle ∧
      session'.key = some ⟨7, 9⟩ := by
  have expressible : Expressible dialogueConfig := by
    refine ⟨by decide, ?_⟩
    rintro _ ⟨⟩
    decide
  have given : dialogueConfig.password ≠ none := by decide
  have said : Frame.Unsolicited ⟨Tag.notice, [0]⟩ := by
    refine .inl ⟨rfl, ⟨.empty⟩, [], ?_⟩
    have fields : Reader.fieldsAfter .empty [0] = .ok .empty [] := by
      rw [Reader.fieldsAfter, if_pos rfl]
    exact bind_ok fields
  have authenticates : Authenticates dialogueConfig (dialogueStart ++ [dialogueSatisfied]) := by
    refine ⟨_, _, rfl, by decide, ?_, rfl, [], rfl⟩
    refine List.forall_mem_cons.mpr ⟨.inl said, List.forall_mem_singleton.mpr (.inr ⟨given, rfl, ?_⟩)⟩
    exact ⟨[], .inr ⟨[1, 2, 3, 4], rfl, rfl⟩⟩
  have ready : Readies dialogueConfig .idle (dialogueKeys ++ [dialogueReady]) := by
    refine ⟨_, _, rfl, by decide, ?_, rfl, 73, [], rfl, .inl ⟨rfl, rfl⟩⟩
    exact List.forall_mem_cons.mpr ⟨.inr ⟨rfl, by decide⟩,
      List.forall_mem_singleton.mpr (.inr ⟨rfl, by decide⟩)⟩
  obtain ⟨session', done, rest, -, status, key⟩ :=
    (handshake_accepts script_reliable expressible (show Smooth dialogue from ⟨rfl, rfl⟩)
      (new_willing dialogueConfig dialogue) [42] _ _ _).mpr
      ⟨_, _, _, _, rfl, .inr rfl, authenticates, ready, rfl, rfl, rfl⟩
  exact ⟨session', done, rest, status, key⟩

end PgSession.Proofs
