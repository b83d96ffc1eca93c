import PgSession.Proofs.HandshakeLanguage
import PgSession.Proofs.Twins
import PgSession.Transport.Script

/-!
A password shows in the messages that answer a challenge, and in the dumps of these messages, but
nowhere else: not in an error, an event or any other record, and in nothing that a client does
afterwards, although all messages go through one buffer.
-/

namespace PgSession.Proofs
open Wire Session

variable {τ β : Type}

/-- The same call, or the writes of two password messages that come to the same. -/
inductive SameCall : Call → Call → Prop
  | same (call : Call) : SameCall call call
  | passwords (encrypted : Bool) (answer answer' : String) (timeout : Nat) (succeeded : Bool) :
    SameCall (.write encrypted (encoded (.password answer)) timeout succeeded)
      (.write encrypted (encoded (.password answer')) timeout succeeded)

/-- Effects that differ in a password message at most. -/
inductive Masked : Effect → Effect → Prop
  | same (effect : Effect) : Masked effect effect
  | call {call call' : Call} (same : SameCall call call') : Masked (.call call) (.call call')
  | dump (speaker answer answer' : String) :
    Masked (writeRecord speaker (encoded (.password answer)))
      (writeRecord speaker (encoded (.password answer')))

private theorem Masked.call? {effect effect' : Effect} (masked : Masked effect effect') :
    Option.Rel SameCall effect.call? effect'.call? := by
  cases masked with
  | same effect =>
    cases effect with
    | call made => exact .some (.same made)
    | logged | delivered => exact .none
  | call same => exact .some same
  | dump => exact .none

/-- What an effect adds to the log above the level of traces. -/
def audible? (effect : Effect) : Option Log.Record :=
  effect.record?.filter fun record => record.level ≠ .trace

private theorem writeRecord_unseen (speaker : String) (bytes : List UInt8) :
    (writeRecord speaker bytes).delivery? = none ∧ audible? (writeRecord speaker bytes) = none :=
  ⟨rfl, rfl⟩

private theorem Masked.delivery? {effect effect' : Effect} (masked : Masked effect effect') :
    effect'.delivery? = effect.delivery? := by
  cases masked with
  | same | call => rfl
  | dump => rw [(writeRecord_unseen ..).1, (writeRecord_unseen ..).1]

private theorem Masked.audible? {effect effect' : Effect} (masked : Masked effect effect') :
    audible? effect' = audible? effect := by
  cases masked with
  | same | call => rfl
  | dump => rw [(writeRecord_unseen ..).2, (writeRecord_unseen ..).2]

private theorem filterMap_masked {select : Effect → Option β} {journal journal' : List Effect}
    (same : ∀ {effect effect'}, Masked effect effect' → select effect' = select effect)
    (masked : List.Forall₂ Masked journal journal') :
    journal'.filterMap select = journal.filterMap select := by
  induction masked with
  | nil => rfl
  | cons first _ ih => simp only [List.filterMap_cons, same first, ih]

variable [Transport τ]

/-- What the transport does may depend on how often it was called, but not on what it is given. -/
def Oblivious (τ : Type) [Transport τ] : Prop :=
  ∀ (link : τ) bytes bytes' timeout,
    Transport.write link bytes timeout = Transport.write link bytes' timeout

theorem script_oblivious : Oblivious Script := fun _ _ _ _ => rfl

def passwords (settings : Config) (password password' : String) : Comparison where
  settings := { settings with password := some password }
  settings' := { settings with password := some password' }
  alike := Masked
  refl := .same

private theorem answers_interchangeable (oblivious : Oblivious τ) {answer answer' : String}
    (sendable : Sendable (.password answer)) (sendable' : Sendable (.password answer')) :
    Interchangeable τ Masked (.password answer) (.password answer') :=
  ⟨iff_of_true sendable' sendable, fun speaker => .dump speaker answer answer',
    fun encrypted timeout succeeded => .call (.passwords encrypted answer answer' timeout succeeded),
    fun link timeout => oblivious link _ _ timeout⟩

private theorem passwords_fair (oblivious : Oblivious τ) (settings : Config)
    {password password' : String}
    (short : Sendable (.password password)) (short' : Sendable (.password password')) :
    Fair τ (passwords settings password password') := by
  refine ⟨rfl, fun challenge => ?_⟩
  cases challenge with
  | ok => exact .unasked
  | cleartextPassword => exact .said (answers_interchangeable oblivious short short')
  | md5Password salt =>
    exact .said (answers_interchangeable oblivious (md5_sendable ..) (md5_sendable ..))

/-- Two clients that only a reader of their password messages can tell apart. -/
structure Indistinct (client client' : Client τ) : Prop where
  phase : client'.phase = client.phase
  calls : List.Forall₂ SameCall client.session.channel.calls client'.session.channel.calls
  link : client'.session.channel.link = client.session.channel.link
  deliveries : client'.session.channel.deliveries = client.session.channel.deliveries
  records : client'.session.channel.records.filter (·.level ≠ .trace) =
    client.session.channel.records.filter (·.level ≠ .trace)
  parameters : client'.session.parameters = client.session.parameters
  status : client'.session.status = client.session.status
  key : client'.session.key = client.session.key
  display : client'.session.display = client.session.display

private theorem Twins.indistinct {settings : Config} {password password' : String}
    {client client' : Client τ} (fair : Fair τ (passwords settings password password'))
    (twins : Twins (passwords settings password password') client client') :
    Indistinct client client' := by
  have twin := twins.twin
  refine ⟨twins.phase, ?_, twin.link, ?_, ?_, twin.parameters, twin.status, twin.key, ?_⟩
  · exact List.rel_filterMap (fun _ _ masked => masked.call?) twin.journal
  · exact filterMap_masked Masked.delivery? twin.journal
  · simp only [Channel.records, List.filter_filterMap]
    exact filterMap_masked Masked.audible? twin.journal
  · unfold Session.display
    rw [fair.identity twin, twin.status, twin.key]

/-- Whatever is done with a client, its password shows in password messages and in traces of them only.
With another password it makes the same calls, but for the bytes of these messages, hands out the same
events, logs the same apart from traces, and gives the same answers, except that it shows its own
settings when asked for them. -/
theorem password_confined (oblivious : Oblivious τ) (settings : Config) {password password' : String}
    (short : Sendable (.password password)) (short' : Sendable (.password password')) (link : τ)
    (operations : List Operation) :
    let settings' := { settings with password := some password' }
    let client := performAll (Client.new { settings with password := some password } link) operations
    let client' := performAll (Client.new settings' link) operations
    Indistinct client client' ∧
      ∀ operation, (client'.perform operation).1 = under settings' (client.perform operation).1 := by
  intro settings' client client'
  have fair := passwords_fair oblivious settings short short'
  have twins : Twins (passwords settings password password') client client' :=
    (Twins.beginning fair link).performAll fair operations
  exact ⟨twins.indistinct fair, fun operation => (twins.perform fair operation).1⟩

private def confidingConfig : Config := { user := "ada" }
private def asking : Script where
  served := [⟨Tag.authentication, int32 3⟩, ⟨Tag.authentication, int32 5 ++ [1, 2, 3, 4]⟩,
    ⟨Tag.authentication, int32 0⟩, ⟨Tag.readyForQuery, [73]⟩].flatMap Frame.bytes

private def confiding (password : String) : Client Script :=
  performAll (Client.new { confidingConfig with password := some password } asking) [.handshake]

/-- A server that asks for the password as it is, then for its digest, and is satisfied. -/
theorem password_confined_asked :
    Sendable (.password "swordfish") ∧ Sendable (.password "mellon") ∧
    (confiding "swordfish").phase = .connection ∧
    (confiding "mellon").session.channel.calls ≠ (confiding "swordfish").session.channel.calls ∧
    Indistinct (confiding "swordfish") (confiding "mellon") := by
  have short : Sendable (.password "swordfish") := by decide +kernel
  have short' : Sendable (.password "mellon") := by decide +kernel
  have connected : (confiding "swordfish").phase = .connection := by decide +kernel
  have different : (confiding "mellon").session.channel.calls ≠
      (confiding "swordfish").session.channel.calls := by decide +kernel
  have reached : ∀ password, performAll (Client.new { confidingConfig with password := some password }
      asking) [.handshake] = confiding password := fun _ => rfl
  have told := password_confined script_oblivious confidingConfig short short' asking [.handshake]
  simp only [reached] at told
  exact ⟨short, short', connected, different, told.1⟩

end PgSession.Proofs
