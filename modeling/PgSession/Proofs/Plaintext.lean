import PgSession.Proofs.Lifecycle
import PgSession.Transport.Script

/-!
What may be read on the way. A client that insists on encryption sends nothing in plain but the
request for it, and after the server has agreed to encrypt nothing at all is sent in plain.
-/

namespace PgSession.Proofs
open Wire Session

variable {τ : Type} [Transport τ] {start : Outlook τ}

/-- The bytes that ask for encryption. -/
def request : List UInt8 := [0, 0, 0, 8, 4, 210, 22, 47]

/-- Writes in plain are requests for encryption, and begin the calls. -/
def OnlyRequests (calls : List Call) : Prop :=
  ∀ before bytes timeout succeeded after,
    calls = before ++ .write false bytes timeout succeeded :: after → before = [] ∧ bytes = request

/-- No write in plain. -/
def Veiled (calls : List Call) : Prop :=
  ∀ bytes timeout succeeded, .write false bytes timeout succeeded ∉ calls

/-- From the answer that agrees to encrypt onward there is no write in plain. -/
def VeiledOnceAgreed (link : τ) (calls : List Call) : Prop :=
  ∀ before after, calls = before ++ after → heard link before = [sslAccepted] → Veiled after

theorem Veiled.append {calls more : List Call} (veiled : Veiled calls) (others : Veiled more) :
    Veiled (calls ++ more) := by
  intro bytes timeout succeeded member
  rcases List.mem_append.mp member with front | back
  · exact veiled bytes timeout succeeded front
  · exact others bytes timeout succeeded back

theorem Veiled.close (closed : Bool) : Veiled [.close closed] := by
  intro bytes timeout succeeded member
  cases List.mem_singleton.mp member

private theorem Talks.veiled {spoken : FrontendMessage → Prop} {calls : List Call}
    (talks : Talks spoken start calls) (encrypted : start.encrypted = true) : Veiled calls := by
  intro bytes timeout succeeded member
  rcases talks.only _ member with ⟨_, _, _, impossible⟩ | ⟨_, _, _, -, same⟩
  · cases impossible
  · rw [encrypted] at same
    cases same

namespace OnlyRequests

variable {calls more : List Call}

theorem append (only : OnlyRequests calls) (veiled : Veiled more) : OnlyRequests (calls ++ more) := by
  intro before bytes timeout succeeded after split
  obtain ⟨middle, front, -⟩ := split_ahead split (veiled bytes timeout succeeded)
  exact only _ _ _ _ _ front

omit [Transport τ] in
private theorem asks (sent : Bool) : OnlyRequests [start.writes .sslRequest sent] := by
  intro before bytes timeout succeeded after split
  obtain ⟨rfl, same, -⟩ := split_one split
  obtain ⟨-, rfl, -⟩ := Call.write.inj same
  exact ⟨rfl, by decide⟩

private theorem behind (only : OnlyRequests calls) {before after : List Call}
    (split : calls = before ++ after) (begun : before ≠ []) : Veiled after := by
  intro bytes timeout succeeded member
  obtain ⟨first, last, rfl⟩ := List.append_of_mem member
  rw [← List.append_assoc] at split
  obtain ⟨nothing, -⟩ := only _ _ _ _ _ split
  exact begun (List.append_eq_nil_iff.mp nothing).1

end OnlyRequests

private theorem Requests.only {required : Bool} {calls : List Call}
    {result : Except (Halt Error) Bool}
    (requests : Requests start required calls result) : OnlyRequests calls := by
  have silent : ∀ timeout listened, Veiled [.read 1 timeout listened] := by
    intro timeout listened bytes timeout' succeeded member
    cases List.mem_singleton.mp member
  obtain ⟨sent, rfl | ⟨listened, rfl⟩⟩ := requests.asks
  · exact .asks sent
  · exact (OnlyRequests.asks sent).append (silent _ listened)

/-- Whatever a negotiation comes to, the request is all it says. -/
theorem Secures.only {calls : List Call} {result : Except (Halt Error) Unit}
    (secures : Secures start calls result) : OnlyRequests calls := by
  have asks : OnlyRequests [start.writes .sslRequest true] := .asks true
  cases secures with
  | skipped =>
    intro before bytes timeout succeeded after split
    exact (split_nil split).elim
  | broken wanted requests closed => exact requests.only.append (.close closed)
  | refused => exact asks.append (by simp [Veiled])
  | accepted => exact asks.append (by simp [Veiled])
  | stuck => exact asks.append (by simp [Veiled])

/-- Once encryption is negotiated, either everything is encrypted or nobody agreed to encrypt. -/
theorem Secures.settles {calls : List Call} (secures : Secures start calls (.ok ())) :
    (start.after calls).encrypted = true ∨
      start.config.ssl ≠ .require ∧ (calls = [] ∨ heard start.link calls = [sslRefused]) := by
  cases secures with
  | skipped disabled => exact .inr ⟨by rw [disabled]; nofun, .inl rfl⟩
  | refused optional heard => exact .inr ⟨by rw [optional]; nofun, .inr heard⟩
  | accepted => exact .inl (by simp [Outlook.after, upgrades])

/-- What follows a negotiation that succeeded: it is only encrypted if the line is. -/
structure Follows (before : Outlook τ) (calls : List Call) : Prop where
  veiled : before.encrypted = true → Veiled calls
  coarse : ∀ front rest, calls = front ++ rest → (heard before.link front).length ≠ 1

theorem Talks.follows {spoken : FrontendMessage → Prop} {calls : List Call}
    (talks : Talks spoken start calls) : Follows start calls := ⟨talks.veiled, talks.coarse⟩

theorem Follows.close {calls : List Call} (follows : Follows start calls) (closed : Bool) :
    Follows start (calls ++ [.close closed]) where
  veiled encrypted := (follows.veiled encrypted).append (.close closed)
  coarse front rest split := by
    rcases List.append_eq_append_iff.mp split with ⟨middle, rfl, back⟩ | ⟨middle, same, -⟩
    · have earlier := follows.coarse calls [] (List.append_nil _).symm
      rw [heard_append, List.length_append]
      rcases List.append_eq_singleton_iff.mp back.symm with ⟨rfl, -⟩ | ⟨rfl, -⟩ <;> exact earlier
    · exact follows.coarse front middle same

section Courses

variable {cancels : Prop} {phase : Phase} {opening rest calls : List Call}

private theorem required (secures : Secures start opening (.ok ()))
    (follows : Follows (start.after opening) rest) (insists : start.config.ssl = .require) :
    OnlyRequests (opening ++ rest) := by
  rcases secures.settles with encrypted | ⟨relaxed, -⟩
  · exact secures.only.append (follows.veiled encrypted)
  · exact absurd insists relaxed

private theorem agreed (secures : Secures start opening (.ok ()))
    (follows : Follows (start.after opening) rest) :
    VeiledOnceAgreed start.link (opening ++ rest) := by
  intro before after split agreed
  rcases secures.settles with encrypted | ⟨-, rfl | refused⟩
  · refine (secures.only.append (follows.veiled encrypted)).behind split ?_
    rintro rfl
    cases agreed
  · -- Nothing was asked, and a message is never a single byte.
    rw [Outlook.after_nil] at follows
    have single := follows.coarse before after split
    rw [agreed] at single
    exact absurd rfl single
  · -- The refusal is the first byte of whatever was heard, so it cannot have been an agreement.
    have first := heard_append start.link opening rest
    rw [split, heard_append, agreed, refused] at first
    cases first

theorem Course.required (course : Course start False phase calls)
    (insists : start.config.ssl = .require) : OnlyRequests calls := by
  cases course with
  | fresh =>
    intro before bytes timeout succeeded after split
    exact (split_nil split).elim
  | insecure secures => exact secures.only
  | talking _ secures talks => exact Proofs.required secures talks.follows insists
  | closed secures talks closed =>
    rw [List.append_assoc]
    exact Proofs.required secures (talks.follows.close closed) insists
  | cancelled impossible => exact impossible.elim

theorem Course.agreed (course : Course start False phase calls) :
    VeiledOnceAgreed start.link calls := by
  cases course with
  | fresh =>
    intro before after split agreed
    obtain ⟨rfl, -⟩ := List.append_eq_nil_iff.mp split.symm
    cases agreed
  | insecure secures =>
    intro before after split agreed
    refine secures.only.behind split ?_
    rintro rfl
    cases agreed
  | talking _ secures talks => exact Proofs.agreed secures talks.follows
  | closed secures talks closed =>
    rw [List.append_assoc]
    exact Proofs.agreed secures (talks.follows.close closed)
  | cancelled impossible => exact impossible.elim

end Courses

/-- However a session goes, unless it cancels another, only what has to be is sent in plain. -/
theorem nothing_in_plain (config : Config) (link : τ) (operations : List Operation)
    (stays : ∀ key, .cancelOther key ∉ operations) :
    let calls := (performAll (Client.new config link) operations).session.channel.calls
    (config.ssl = .require → OnlyRequests calls) ∧ VeiledOnceAgreed link calls ∧
      ∀ before succeeded after, calls = before ++ .upgrade succeeded :: after →
        heard link before = [sslAccepted] := by
  intro calls
  have course : Course (beginning config link) False _ calls :=
    (performAll_course config link stays).known
  refine ⟨fun insists => course.required insists, course.agreed, ?_⟩
  intro before succeeded after split
  exact (course.upgrading split).2.1

private def insistentConfig : Config := { user := "ada", password := some "secret", ssl := .require }

private def agreeing : Script where
  served := [sslAccepted]

/-- A client that insists on encryption, and a server that agrees and then falls silent. -/
theorem nothing_in_plain_agreed :
    let calls := (performAll (Client.new insistentConfig agreeing)
      [.secure, .sendStartup]).session.channel.calls
    calls = [.write false request 30000 true, .read 1 30000 true, .upgrade true,
      .write true (encoded (startupMessage insistentConfig)) 30000 true] ∧
      OnlyRequests calls ∧ VeiledOnceAgreed agreeing calls := by
  have secret := nothing_in_plain insistentConfig agreeing [.secure, .sendStartup] (by simp)
  exact ⟨by decide +kernel, secret.1 rfl, secret.2.1⟩

end PgSession.Proofs
