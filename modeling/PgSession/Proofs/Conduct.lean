import PgSession.Proofs.Trace

/-!
What a session does while no message is expected. Each action has few shapes: what is sent is one
write, the answer to the request for encryption is one read, and a session is left with a write and
a closing.
-/

namespace PgSession.Proofs
open Wire Session

variable {τ α : Type} [Transport τ] {session : Session τ}

namespace Outlook

variable (before : Outlook τ)

/-- The call that sends a message. -/
def writes (message : FrontendMessage) (succeeded : Bool) : Call :=
  .write before.encrypted (encoded message) before.config.timeout succeeded

end Outlook

inductive Sends (before : Outlook τ) (message : FrontendMessage) :
    List Call → Except (Halt Error) Unit → Prop
  | sent : Sends before message [before.writes message true] (.ok ())
  | failed (kind : ErrorKind) :
    Sends before message [before.writes message false] (.error (.failed ⟨kind, none⟩))
  | long (crash : Crash) (long : ¬ Sendable message) :
    Sends before message [] (.error (.crashed crash))

theorem send_asks (message : FrontendMessage) :
    Asks session (Unbuffered.send message) (Sends (outlook session) message) := by
  unfold Unbuffered.send
  split
  · refine Does.saying fun session' same => ?_
    rw [← same]
    refine Does.get ((Does.write _ _).mono fun calls _ result made => ?_)
    cases made with
    | done => exact .sent
    | failed kind => exact .failed kind
  · next long => exact Does.throw (.long _ long)

/-- The outcomes of asking for encryption, with the byte that was the answer. -/
inductive Requests (before : Outlook τ) (required : Bool) :
    List Call → Except (Halt Error) Bool → Prop
  | unsent (error : Error) :
    Requests before required [before.writes .sslRequest false] (.error (.failed error))
  | unheard (error : Error) :
    Requests before required [before.writes .sslRequest true, .read 1 before.config.timeout false]
      (.error (.failed error))
  | rejected (error : Error) :
    Requests before required [before.writes .sslRequest true, .read 1 before.config.timeout true]
      (.error (.failed error))
  | answered (accepted : Bool) (allowed : accepted = false → required = false)
    (heard : heard before.link
      [before.writes .sslRequest true, .read 1 before.config.timeout true] =
        [if accepted then sslAccepted else sslRefused]) :
    Requests before required [before.writes .sslRequest true, .read 1 before.config.timeout true]
      (.ok accepted)

theorem requestSsl_asks (required : Bool) :
    Asks session (Unbuffered.requestSsl required) (Requests (outlook session) required) := by
  unfold Unbuffered.requestSsl
  refine Does.saying fun session' same => ?_
  rw [← same]
  refine (send_asks .sslRequest).bind (fun _ between calls advances wrote => ?_) ?_
  · cases wrote
    apply Does.get
    rw [advances.config]
    refine (Does.read 1 _).bind (fun answer last more _ listened => ?_) ?_
    · cases listened with
      | heard _ length same =>
        match answer, length with
        | [byte], _ =>
          have both : heard session'.channel.link ([(outlook session').writes .sslRequest true] ++
              [.read 1 session'.config.timeout true]) = [byte] := by
            rw [heard_append, ← advances.link, same]
            rfl
          by_cases yes : [byte].headD 0 = sslAccepted
          · rw [if_pos yes]
            obtain rfl : byte = sslAccepted := yes
            exact Does.pure (.answered true nofun both)
          rw [if_neg yes]
          by_cases no : [byte].headD 0 = sslRefused
          · rw [if_pos no]
            obtain rfl : byte = sslRefused := no
            cases required with
            | true => exact Does.throw (.rejected _)
            | false => exact Does.saying fun _ _ => Does.pure (.answered false (fun _ => rfl) both)
          · rw [if_neg no]
            exact Does.throw (.rejected _)
    · intro more _ halt failed
      cases failed
      exact .unheard _
  · intro calls _ halt failed
    cases failed with
    | failed kind => exact .unsent _
    | long crash long => exact absurd (by decide) long

/-- What is said first is the request, and what is read then is a single byte. -/
theorem Requests.asks {before : Outlook τ} {required : Bool} {calls : List Call}
    {result : Except (Halt Error) Bool} (requests : Requests before required calls result) :
    ∃ sent, calls = [before.writes .sslRequest sent] ∨ ∃ listened,
      calls = [before.writes .sslRequest sent, .read 1 before.config.timeout listened] := by
  cases requests with
  | unsent => exact ⟨false, .inl rfl⟩
  | unheard => exact ⟨true, .inr ⟨false, rfl⟩⟩
  | rejected | answered => exact ⟨true, .inr ⟨true, rfl⟩⟩

theorem Requests.plain {before : Outlook τ} {required : Bool} {calls : List Call}
    {result : Except (Halt Error) Bool} (requests : Requests before required calls result)
    {call : Call} (member : call ∈ calls) :
    (∃ sent, call = before.writes .sslRequest sent) ∨
      ∃ listened, call = .read 1 before.config.timeout listened := by
  obtain ⟨sent, rfl | ⟨listened, rfl⟩⟩ := requests.asks
  · exact .inl ⟨sent, List.mem_singleton.mp member⟩
  · rcases List.mem_cons.mp member with first | second
    · exact .inl ⟨sent, first⟩
    · exact .inr ⟨listened, List.mem_singleton.mp second⟩

/-- The outcomes of negotiating encryption before anything else is sent. -/
inductive Secures (before : Outlook τ) : List Call → Except (Halt Error) Unit → Prop
  | skipped (disabled : before.config.ssl = .disable) : Secures before [] (.ok ())
  | broken (wanted : before.config.ssl ≠ .disable) {required : Bool} {calls : List Call}
    {cause : Error} (requests : Requests before required calls (.error (.failed cause)))
    (closed : Bool) (error : Error) : Secures before (calls ++ [.close closed]) (.error (.failed error))
  | refused (optional : before.config.ssl = .prefer)
    (heard : heard before.link
      [before.writes .sslRequest true, .read 1 before.config.timeout true] = [sslRefused]) :
    Secures before [before.writes .sslRequest true, .read 1 before.config.timeout true] (.ok ())
  | accepted (wanted : before.config.ssl ≠ .disable)
    (heard : heard before.link
      [before.writes .sslRequest true, .read 1 before.config.timeout true] = [sslAccepted]) :
    Secures before
      [before.writes .sslRequest true, .read 1 before.config.timeout true, .upgrade true] (.ok ())
  | stuck (wanted : before.config.ssl ≠ .disable)
    (heard : heard before.link
      [before.writes .sslRequest true, .read 1 before.config.timeout true] = [sslAccepted])
    (error : Error) :
    Secures before
      [before.writes .sslRequest true, .read 1 before.config.timeout true, .upgrade false]
      (.error (.failed error))

private theorem negotiate_asks {required : Bool} (wanted : session.config.ssl ≠ .disable)
    (optional : required = false → session.config.ssl = .prefer) :
    Asks session (Unbuffered.negotiate required) (Secures (outlook session)) := by
  unfold Unbuffered.negotiate
  refine (Does.guarded (requestSsl_asks required)).bind (fun accepted between calls _ asked => ?_) ?_
  · cases asked with
    | going asked =>
      cases asked with
      | answered accepted allowed heard =>
        cases accepted with
        | false => exact Does.pure (.refused (optional (allowed rfl)) heard)
        | true =>
          refine Does.saying fun session' _ => ?_
          refine (Does.attemptCall Does.upgrade).bind (fun outcome _ more _ upgraded => ?_) ?_
          · obtain ⟨_, rfl, ⟨⟩, -⟩ := upgraded
            cases outcome with
            | ok nothing => exact Does.pure (.accepted wanted heard)
            | error error => exact Does.throw (.stuck wanted heard _)
          · rintro more _ halt ⟨_, -, ⟨⟩, -⟩
  · intro calls _ halt failed
    cases failed with
    | closed requests closed error => exact .broken wanted requests closed error
    | going requests unfailed =>
      cases requests <;> exact absurd rfl (unfailed _)

theorem secure_asks : Asks session Unbuffered.secure (Secures (outlook session)) := by
  unfold Unbuffered.secure
  apply Does.get
  cases mode : session.config.ssl with
  | disable => exact Does.pure (.skipped mode)
  | prefer => exact negotiate_asks (by rw [mode]; nofun) fun _ => mode
  | require => exact negotiate_asks (by rw [mode]; nofun) nofun

/-- The message that tells who the client is, or what comes of failing to send it. -/
abbrev Introduces (before : Outlook τ) : List Call → Except (Halt Error) Unit → Prop :=
  Guarded (Sends before (startupMessage before.config))

theorem sendStartup_asks : Asks session Unbuffered.sendStartup (Introduces (outlook session)) := by
  refine Does.guarded (Does.saying fun session' same => Does.get ?_)
  rw [← same]
  exact send_asks _

/-- Reads, and writes of such messages, over a line that stays as it is. What is read begins with a
header, so that a single byte is never all of it. -/
structure Talks (spoken : FrontendMessage → Prop) (before : Outlook τ) (calls : List Call) : Prop where
  only : ∀ call ∈ calls, (∃ count timeout succeeded, call = .read count timeout succeeded) ∨
    ∃ message timeout succeeded, spoken message ∧
      call = .write before.encrypted (encoded message) timeout succeeded
  coarse : ∀ front rest, calls = front ++ rest → (heard before.link front).length ≠ 1

namespace Talks

variable {spoken : FrontendMessage → Prop} {before : Outlook τ} {calls more : List Call}

theorem nil : Talks spoken before [] where
  only := nofun
  coarse front rest split := by
    obtain ⟨rfl, -⟩ := List.append_eq_nil_iff.mp split.symm
    exact Nat.zero_ne_one

theorem one {message : FrontendMessage} (said : spoken message) (before : Outlook τ)
    (succeeded : Bool) : Talks spoken before [before.writes message succeeded] where
  only call member := .inr ⟨message, _, succeeded, said, List.mem_singleton.mp member⟩
  coarse front rest split := by
    rcases List.append_eq_singleton_iff.mp split.symm with ⟨rfl, -⟩ | ⟨rfl, -⟩ <;>
      exact Nat.zero_ne_one

theorem mono {other : FrontendMessage → Prop} (talks : Talks spoken before calls)
    (weaker : ∀ message, spoken message → other message) : Talks other before calls where
  only call member := by
    rcases talks.only call member with read | ⟨message, timeout, succeeded, said, same⟩
    · exact .inl read
    · exact .inr ⟨message, timeout, succeeded, weaker message said, same⟩
  coarse := talks.coarse

/-- Talk does not change whether the line is encrypted. -/
theorem upgrades (talks : Talks spoken before calls) : calls.any upgrades = false := by
  rw [List.any_eq_false]
  intro call member
  rcases talks.only call member with ⟨_, _, _, rfl⟩ | ⟨_, _, _, -, rfl⟩ <;> exact Bool.false_ne_true

theorem after (talks : Talks spoken before calls) :
    (before.after calls).encrypted = before.encrypted := by
  change (before.encrypted || calls.any Proofs.upgrades) = before.encrypted
  rw [talks.upgrades, Bool.or_false]

theorem append (talks : Talks spoken before calls) (others : Talks spoken (before.after calls) more) :
    Talks spoken before (calls ++ more) where
  only call member := by
    rcases List.mem_append.mp member with front | back
    · exact talks.only call front
    · have same := others.only call back
      rw [talks.after] at same
      exact same
  coarse front rest split := by
    rcases List.append_eq_append_iff.mp split with ⟨middle, rfl, back⟩ | ⟨middle, same, -⟩
    · -- Neither half ends in a single byte, so the two do not add up to one.
      have earlier := talks.coarse calls [] (List.append_nil _).symm
      have later : (heard (replay before.link calls) middle).length ≠ 1 :=
        others.coarse middle rest back
      rw [heard_append, List.length_append]
      omega
    · exact talks.coarse front middle same

end Talks

/-- One write, and then the transport is closed, whether the write succeeded or not. -/
def Parts (before : Outlook τ) (message : FrontendMessage) (calls : List Call) : Prop :=
  ∃ sent closed, calls = [before.writes message sent, .close closed]

theorem sendAndClose_asks {message : FrontendMessage} (sendable : Sendable message) :
    Asks session (Unbuffered.sendAndClose message)
      fun calls result => Parts (outlook session) message calls ∧ Plain result := by
  have sends : Asks session (attempt (Unbuffered.send message)) fun calls result =>
      ∃ made : Except Error Unit, calls = [(outlook session).writes message (succeeded made)] ∧
        result = .ok made ∧ ∀ error, made = .error error → error.stage = none := by
    apply (send_asks message).attempt
    · intro calls _ value wrote
      cases wrote
      exact ⟨.ok (), rfl, rfl, nofun⟩
    · intro calls _ error wrote
      cases wrote with
      | failed kind =>
        refine ⟨.error ⟨kind, none⟩, rfl, rfl, ?_⟩
        rintro _ ⟨⟩
        rfl
    · intro calls _ crash wrote
      cases wrote with
      | long _ long => exact absurd sendable long
  refine sends.bind (fun sent between calls _ wrote => ?_) ?_
  · obtain ⟨_, rfl, ⟨⟩, plain⟩ := wrote
    refine (Does.attemptCall Does.close).bind (fun closed last more _ shut => ?_) ?_
    · obtain ⟨_, rfl, ⟨⟩, plain'⟩ := shut
      have parts : Parts (outlook session) message
        [(outlook session).writes message (succeeded sent), .close (succeeded closed)] := ⟨_, _, rfl⟩
      refine (ensure_asks plain).bind (fun _ final more _ nothing => ?_) ?_
      · obtain ⟨rfl, -⟩ := nothing
        refine (ensure_asks plain').mono ?_
        rintro more _ result ⟨rfl, plain⟩
        exact ⟨parts, plain⟩
      · rintro more _ halt ⟨rfl, plain⟩
        exact ⟨parts, plain⟩
    · rintro more _ halt ⟨_, -, ⟨⟩, -⟩
  · rintro calls _ halt ⟨_, -, ⟨⟩, -⟩

theorem close_asks : Asks session Unbuffered.close
    fun calls result => Parts (outlook session) .terminate calls ∧ Plain result := by
  refine Does.saying fun session' same => ?_
  rw [← same]
  exact sendAndClose_asks (by decide)

theorem cancelOther_asks (key : KeyData) : Asks session (Unbuffered.cancelOther key)
    fun calls result => Parts (outlook session) key.cancelRequest calls ∧ Plain result := by
  refine Does.saying fun session' same => ?_
  rw [← same]
  exact sendAndClose_asks rfl

/-- An error that a session is ended with is the one that is reported. -/
theorem terminated_asks (given : Except Error α) : Asks session (Unbuffered.terminated given)
    fun calls result => Parts (outlook session) .terminate calls ∧
      ∀ error, given = .error error → result = .error (.failed error) := by
  unfold Unbuffered.terminated
  have ends : Asks session (attempt Unbuffered.close) fun calls result =>
      Parts (outlook session) .terminate calls ∧ ∃ closing, result = .ok closing :=
    close_asks.attempt (fun _ _ _ ended => ⟨ended.1, _, rfl⟩) (fun _ _ _ ended => ⟨ended.1, _, rfl⟩)
      fun _ _ _ ended => ended.2.elim
  refine ends.bind (fun closing between calls _ ended => ?_) ?_
  · have parts : Parts (outlook session) .terminate (calls ++ []) := by
      rw [List.append_nil]
      exact ended.1
    cases given with
    | error error =>
      have same : ∀ other, Except.error error = (.error other : Except Error α) →
          (.error (.failed error) : Except (Halt Error) α) = .error (.failed other) := by
        rintro _ ⟨⟩
        rfl
      cases closing with
      | error closing => exact Does.saying fun _ _ => Does.throw ⟨parts, same⟩
      | ok nothing => exact Does.throw ⟨parts, same⟩
    | ok value =>
      cases closing with
      | error closing => exact Does.throw ⟨parts, nofun⟩
      | ok nothing => exact Does.pure ⟨parts, nofun⟩
  · rintro calls _ halt ⟨-, closing, ⟨⟩⟩

end PgSession.Proofs
