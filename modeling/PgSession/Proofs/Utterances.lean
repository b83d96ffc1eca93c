import PgSession.Proofs.Replies
import PgSession.Proofs.Runs
import PgSession.Transport.Script

/-!
What a client says until a session is established: a request for encryption unless it wants none,
then who it is, and from there on exactly one message for each challenge. Nothing it says depends on
anything else it hears.
-/

namespace PgSession.Proofs
open Wire Session

variable {τ : Type} [Transport τ] {start : Outlook τ}

/-- What is said before the server asks for anything. -/
def greeting (config : Config) : List (List UInt8) :=
  (if config.ssl = .disable then [] else [encoded .sslRequest]) ++ [encoded (startupMessage config)]

/-- How much of what is heard answers the request for encryption. -/
def answerSize (config : Config) : Nat := if config.ssl = .disable then 0 else 1

/-- The challenges in what is heard after that answer. -/
def asked (config : Config) (stream : List UInt8) : List Authentication :=
  challenges (stream.drop (answerSize config))

/-- What the calls say up to now agrees with what they heard. -/
structure Utters (start : Outlook τ) (calls : List Call) : Prop where
  said : writesIn calls <+:
    greeting start.config ++ answers start.config (asked start.config (heard start.link calls))
  prompt : ∀ {before count timeout succeeded after},
    calls = before ++ .read count timeout succeeded :: after →
      before = [start.writes .sslRequest true] ∨
        writesIn before = greeting start.config ++
          answers start.config (asked start.config (heard start.link before)) ∧
        (asked start.config (heard start.link before) ≠ [] → start.config.password ≠ none)
  failed : ∀ {before encrypted bytes timeout after},
    calls = before ++ .write encrypted bytes timeout false :: after → writesIn after = []

/-- Everything that belongs before the first challenge has been said and heard. -/
structure Opened (start : Outlook τ) (calls : List Call) : Prop where
  said : writesIn calls = greeting start.config
  heard : (heard start.link calls).length = answerSize start.config
  reads : ∀ {before count timeout succeeded after},
    calls = before ++ .read count timeout succeeded :: after →
      before = [start.writes .sslRequest true]
  written : ∀ {encrypted bytes timeout}, .write encrypted bytes timeout false ∉ calls

namespace Secures

variable {calls : List Call} {result : Except (Halt Error) Unit}

/-- The only thing read during a negotiation is the answer to the request. -/
theorem reads (secures : Secures start calls result) {before after : List Call}
    {count timeout : Nat} {succeeded : Bool}
    (split : calls = before ++ .read count timeout succeeded :: after) :
    before = [start.writes .sslRequest true] := by
  have first : ∀ {rest}, (∀ count timeout succeeded, .read count timeout succeeded ∉ rest) →
      ∀ {listened}, start.writes .sslRequest true :: .read 1 start.config.timeout listened :: rest =
        before ++ .read count timeout succeeded :: after →
        before = [start.writes .sslRequest true] := by
    intro rest plain listened same
    have halves : [start.writes .sslRequest true, .read 1 start.config.timeout listened] ++ rest =
        before ++ .read count timeout succeeded :: after := same
    obtain ⟨middle, front, -⟩ := split_ahead halves (plain count timeout succeeded)
    rcases split_two front with ⟨-, impossible, -⟩ | ⟨done, -, -⟩
    · cases impossible
    · exact done
  cases secures with
  | skipped => exact (split_nil split).elim
  | broken wanted requests =>
    cases requests with
    | unsent => rcases split_two split with ⟨-, impossible, -⟩ | ⟨-, impossible, -⟩ <;> cases impossible
    | unheard => exact first (by simp) split
    | rejected => exact first (by simp) split
  | refused => exact first (by simp) split
  | accepted => exact first (by simp) split
  | stuck => exact first (by simp) split

/-- After a write that failed, a negotiation only closes the transport. -/
theorem failed (secures : Secures start calls result) {before after : List Call}
    {encrypted : Bool} {bytes : List UInt8} {timeout : Nat}
    (split : calls = before ++ .write encrypted bytes timeout false :: after) : writesIn after = [] := by
  have absent : ∀ {rest}, (∀ encrypted bytes timeout, .write encrypted bytes timeout false ∉ rest) →
      start.writes .sslRequest true :: rest ≠ before ++ .write encrypted bytes timeout false :: after := by
    intro rest plain same
    have halves : [start.writes .sslRequest true] ++ rest =
        before ++ .write encrypted bytes timeout false :: after := same
    obtain ⟨middle, front, -⟩ := split_ahead halves (plain encrypted bytes timeout)
    obtain ⟨-, impossible, -⟩ := split_one front
    cases impossible
  cases secures with
  | skipped => exact (split_nil split).elim
  | broken wanted requests =>
    cases requests with
    | unsent =>
      rcases split_two split with ⟨-, -, rfl⟩ | ⟨-, impossible, -⟩
      · rfl
      · cases impossible
    | unheard => exact absurd split (absent (by simp))
    | rejected => exact absurd split (absent (by simp))
  | refused => exact absurd split (absent (by simp))
  | accepted => exact absurd split (absent (by simp))
  | stuck => exact absurd split (absent (by simp))

end Secures

theorem Secures.opened {calls : List Call} (secures : Secures start calls (.ok ())) :
    Opened start (calls ++ [(start.after calls).writes (startupMessage start.config) true]) where
  said := by
    rw [writesIn_append, greeting]
    cases secures with
    | skipped disabled =>
      rw [if_pos disabled]
      rfl
    | refused optional =>
      rw [if_neg (by rw [optional]; nofun)]
      rfl
    | accepted wanted =>
      rw [if_neg wanted]
      rfl
  heard := by
    have silent : heard (replay start.link calls)
        [(start.after calls).writes (startupMessage start.config) true] = [] := rfl
    rw [heard_append, silent, List.append_nil, answerSize]
    cases secures with
    | skipped disabled =>
      rw [if_pos disabled]
      rfl
    | refused optional answer =>
      rw [if_neg (by rw [optional]; nofun), answer]
      rfl
    | accepted wanted answer =>
      have upgraded : ∀ link : τ, Proofs.heard link [.upgrade true] = [] := fun _ => rfl
      rw [if_neg wanted]
      change (heard start.link ([_, _] ++ [_])).length = 1
      rw [heard_append, upgraded, answer]
      rfl
  reads := by
    intro before count timeout succeeded after split
    obtain ⟨middle, front, -⟩ := split_ahead split (by simp [Outlook.writes])
    exact secures.reads front
  written := by
    intro encrypted bytes timeout member
    rcases List.mem_append.mp member with front | back
    · cases secures <;> simp [Outlook.writes] at front
    · simp [Outlook.writes] at back

theorem Replies.close {config : Config} {link : τ} {calls : List Call}
    (replies : Replies config link calls) (closed : Bool) :
    Replies config link (calls ++ [.close closed]) where
  said := by
    have silent : heard (replay link calls) [.close closed] = [] := rfl
    rw [writesIn_append, heard_append, silent, List.append_nil]
    exact (List.append_nil (writesIn calls)).symm ▸ replies.said
  prompt split := by
    obtain ⟨middle, front, -⟩ := split_ahead split (by simp)
    exact replies.prompt front
  failed := by
    intro before encrypted bytes timeout after split
    obtain ⟨middle, front, rfl⟩ := split_ahead split (by simp)
    rw [writesIn_append, replies.failed front]
    rfl

theorem Guarded.replies {α : Type} {before : Outlook τ} {calls : List Call}
    {result : Except (Halt Error) α} (guarded : Guarded (Waits before) calls result) :
    Replies before.config before.link calls := by
  cases guarded with
  | going waits => exact waits.1
  | closed waits closed => exact waits.1.close closed

namespace Opened

variable {opening talk : List Call}

private theorem asked_append (opened : Opened start opening) (more : List Call) :
    asked start.config (Proofs.heard start.link (opening ++ more)) =
      challenges (Proofs.heard (start.after opening).link more) := by
  rw [asked, heard_append, ← opened.heard, List.drop_left]
  rfl

private theorem utters (opened : Opened start opening)
    (replies : Replies start.config (start.after opening).link talk) :
    Utters start (opening ++ talk) where
  said := by
    rw [opened.asked_append, writesIn_append, opened.said]
    exact (List.prefix_append_right_inj _).mpr replies.said
  prompt := by
    intro before count timeout succeeded after split
    rcases split_append split with ⟨middle, front, -⟩ | ⟨middle, rfl, back⟩
    · exact .inl (opened.reads front)
    · obtain ⟨said, possible⟩ := replies.prompt back
      rw [opened.asked_append, writesIn_append, opened.said, said]
      exact .inr ⟨rfl, possible⟩
  failed := by
    intro before encrypted bytes timeout after split
    obtain ⟨middle, rfl, back⟩ := split_behind split opened.written
    exact replies.failed back

end Opened

/-- The operations that serve to establish a session, and those that need no call. -/
def establishes : Operation → Bool
  | .tick _ | .cancelOther _ | .close | .terminated _ => false
  | _ => true

/-- What has been said when a run has come to a phase. -/
inductive Spoken (start : Outlook τ) : Phase → List Call → Prop
  | fresh : Spoken start .startup []
  | broken {calls : List Call} {halt : Halt Error} (secures : Secures start calls (.error halt)) :
    Spoken start .done calls
  | secured {calls : List Call} (secures : Secures start calls (.ok ())) : Spoken start .secured calls
  | unsent {opening made : List Call} (secures : Secures start opening (.ok ()))
    (sent : made = [] ∨ ∃ closed,
      made = [(start.after opening).writes (startupMessage start.config) false, .close closed]) :
    Spoken start .done (opening ++ made)
  | settled {phase : Phase} (later : phase ≠ .startup ∧ phase ≠ .secured) {opening talk : List Call}
    (opened : Opened start opening) (settled : Settled start.config (start.after opening).link talk) :
    Spoken start phase (opening ++ talk)
  | stopped {opening talk : List Call} (opened : Opened start opening)
    (replies : Replies start.config (start.after opening).link talk) :
    Spoken start .done (opening ++ talk)

namespace Spoken

variable {phase : Phase} {calls made : List Call}

private theorem of_waiting (spoken : Spoken start phase calls)
    (waiting : phase ≠ .startup ∧ phase ≠ .secured ∧ phase ≠ .done) :
    ∃ opening talk, calls = opening ++ talk ∧ Opened start opening ∧
      Settled start.config (start.after opening).link talk := by
  cases spoken with
  | fresh => exact absurd rfl waiting.1
  | secured => exact absurd rfl waiting.2.1
  | settled _ opened settled => exact ⟨_, _, rfl, opened, settled⟩
  | broken | unsent | stopped => exact absurd rfl waiting.2.2

/-- A stage that waits leaves nothing to answer, or ends the run. -/
theorem waits (spoken : Spoken start phase calls)
    (waiting : phase ≠ .startup ∧ phase ≠ .secured ∧ phase ≠ .done) {success : Phase}
    (later : success ≠ .startup ∧ success ≠ .secured) {result : Except (Halt Error) Unit}
    (replies : Guarded (Waits (start.after calls)) made result) :
    Spoken start (leads success .done result) (calls ++ made) := by
  obtain ⟨opening, talk, rfl, opened, settled⟩ := spoken.of_waiting waiting
  rw [Outlook.after_append] at replies
  rw [List.append_assoc]
  -- Only a stage that succeeded is followed by another, so that it has to leave nothing to answer.
  have whole := settled.replies replies.replies
  match result, replies with
  | .ok nothing, .going waits _ => exact .settled later opened (settled.append (waits.2 nothing rfl))
  | .error (.failed _), _ | .error (.crashed _), _ => exact .stopped opened whole

theorem step (spoken : Spoken start phase calls) {operation : Operation} {answer : Answer}
    {report report' : Report} {phase' : Phase} (single : operation ≠ .handshake)
    (ran : Ran (start.after calls) report phase operation made report' answer phase')
    (establishing : establishes operation) : Spoken start phase' (calls ++ made) := by
  cases ran with
  | still =>
    rw [List.append_nil]
    exact spoken
  | handshake => exact absurd rfl single
  | @secure _ _ result does =>
    obtain ⟨-, secures⟩ := does
    have nothing : calls = [] := by
      cases spoken with
      | fresh => rfl
      | settled later => exact absurd rfl later.1
    subst nothing
    rw [Outlook.after_nil] at secures
    cases result with
    | ok nothing => exact .secured secures
    | error halt => cases halt <;> exact .broken secures
  | @sendStartup _ _ result does =>
    obtain ⟨-, sends⟩ := does
    have secures : Secures start calls (.ok ()) := by
      cases spoken with
      | secured secures => exact secures
      | settled later => exact absurd rfl later.2
    cases sends with
    | going sends unfailed =>
      cases sends with
      | sent =>
        have later : Phase.authenticating ≠ .startup ∧ Phase.authenticating ≠ .secured :=
          ⟨nofun, nofun⟩
        have opened : Spoken start .authenticating (_ ++ []) :=
          .settled later secures.opened Settled.nil
        rw [List.append_nil] at opened
        exact opened
      | failed => exact absurd rfl (unfailed _)
      | long => exact .unsent secures (.inl rfl)
    | closed wrote closed =>
      cases wrote
      exact .unsent secures (.inr ⟨closed, rfl⟩)
  | authenticate does =>
    have later : Phase.authenticated ≠ .startup ∧ Phase.authenticated ≠ .secured := ⟨nofun, nofun⟩
    exact spoken.waits ⟨nofun, nofun, nofun⟩ later does.waits
  | ready does =>
    have later : Phase.connection ≠ .startup ∧ Phase.connection ≠ .secured := ⟨nofun, nofun⟩
    exact spoken.waits ⟨nofun, nofun, nofun⟩ later does.waits
  | tick | cancelOther | close | terminated => cases establishing

/-- Before anything was asked, the opening or a part of it is all that was said. -/
private theorem early {start : Outlook τ} {calls : List Call}
    (said : writesIn calls <+: greeting start.config)
    (reads : ∀ {before count timeout succeeded after},
      calls = before ++ .read count timeout succeeded :: after →
        before = [start.writes .sslRequest true])
    (failed : ∀ {before encrypted bytes timeout after},
      calls = before ++ .write encrypted bytes timeout false :: after → writesIn after = []) :
    Utters start calls where
  said := said.trans (List.prefix_append _ _)
  prompt split := .inl (reads split)
  failed := failed

private theorem secures_said {result : Except (Halt Error) Unit}
    (secures : Secures start calls result) : writesIn calls <+: greeting start.config := by
  have request : start.config.ssl ≠ .disable → [encoded .sslRequest] <+: greeting start.config := by
    intro wanted
    rw [greeting, if_neg wanted]
    exact List.prefix_append _ _
  cases secures with
  | skipped => exact List.nil_prefix
  | broken wanted requests => cases requests <;> exact request wanted
  | refused optional => exact request (by rw [optional]; nofun)
  | accepted wanted => exact request wanted
  | stuck wanted => exact request wanted

theorem utters (spoken : Spoken start phase calls) : Utters start calls := by
  cases spoken with
  | fresh =>
    exact early List.nil_prefix (fun split => (split_nil split).elim)
      (fun split => (split_nil split).elim)
  | broken secures => exact early (secures_said secures) secures.reads secures.failed
  | secured secures => exact early (secures_said secures) secures.reads secures.failed
  | @unsent opening made secures sent =>
    rcases sent with rfl | ⟨closed, rfl⟩
    · rw [List.append_nil]
      exact early (secures_said secures) secures.reads secures.failed
    · refine early ?_ ?_ ?_
      · have said := secures.opened.said
        rw [writesIn_append] at said ⊢
        exact said ▸ List.prefix_rfl
      · intro before count timeout succeeded after split
        obtain ⟨middle, front, -⟩ := split_ahead split (by simp [Outlook.writes])
        exact secures.reads front
      · intro before encrypted bytes timeout after split
        have absent : .write encrypted bytes timeout false ∉ opening :=
          fun member => secures.opened.written (List.mem_append_left _ member)
        obtain ⟨middle, -, back⟩ := split_behind split absent
        rcases split_two back with ⟨-, -, rfl⟩ | ⟨-, impossible, -⟩
        · rfl
        · cases impossible
  | settled _ opened settled => exact opened.utters settled.toReplies
  | stopped opened replies => exact opened.utters replies

end Spoken

private theorem Talks.silent {calls : List Call} (talks : Talks (fun _ => False) start calls) :
    writesIn calls = [] := by
  rw [writesIn, List.filterMap_eq_nil_iff]
  intro call member
  rcases talks.only call member with ⟨_, _, _, rfl⟩ | ⟨_, _, _, impossible, -⟩
  · rfl
  · exact impossible.elim

/-- Waiting for the server to be ready is silent. -/
theorem ready_silent {client : Client τ} (sturdy : Sturdy client.session) :
    ∃ made, (client.perform .ready).2.session.channel.calls = client.session.channel.calls ++ made ∧
      writesIn made = [] := by
  cases allowed : client.phase.allows .ready with
  | false =>
    rw [perform_refused allowed]
    exact ⟨[], (List.append_nil _).symm, rfl⟩
  | true =>
    obtain ⟨made, advances, -, ran⟩ := run_ran sturdy allowed
    rw [perform_allowed allowed]
    refine ⟨made, advances.calls, ?_⟩
    generalize client.phase = phase, (client.run .ready).1 = answer,
      (client.run .ready).2.phase = phase', reported (client.run .ready).2.session = report' at ran
    cases ran with
    | still => rfl
    | @ready _ _ result does =>
      cases does.talks with
      | going talks => exact talks.silent
      | closed talks closed =>
        rw [writesIn_append, talks.silent]
        rfl

theorem performAll_spoken (config : Config) (link : τ) {operations : List Operation}
    (establishing : ∀ operation ∈ operations, establishes operation) :
    Underway (beginning config link) (Spoken (beginning config link))
      (performAll (Client.new config link) operations) :=
  performAll_underway config link (fun operation => establishes operation) .fresh
    (fun spoken permit single ran => spoken.step single ran permit) (by decide) establishing

/-- The writes up to the establishment of a session, as a function of what is heard. -/
theorem handshake_utterances (config : Config) (link : τ) (operations : List Operation)
    (establishing : ∀ operation ∈ operations, establishes operation) :
    let client := performAll (Client.new config link) operations
    let calls := client.session.channel.calls
    Utters (beginning config link) calls ∧
      (config.password = none → writesIn calls <+: greeting config) ∧
      ∃ made, (client.perform .ready).2.session.channel.calls = calls ++ made ∧
        writesIn made = [] := by
  intro client calls
  have underway : Underway _ _ client := performAll_spoken config link establishing
  have utters := underway.known.utters
  refine ⟨utters, fun unset => ?_, ready_silent underway.sturdy⟩
  have nothing : ∀ asked, answers config asked = [] := by
    intro asked
    rw [answers, unset]
  have said : writesIn calls <+: greeting config ++ answers config _ := utters.said
  rw [nothing, List.append_nil] at said
  exact said

private def challengedConfig : Config := { user := "ada", password := some "secret", ssl := .prefer }

private def challenging : Script where
  served := [sslRefused] ++ Frame.bytes ⟨Tag.authentication, int32 3⟩ ++
    Frame.bytes ⟨Tag.authentication, int32 5 ++ [1, 2, 3, 4]⟩

/-- A server that refuses encryption, asks for the password, asks for a digest and falls silent. -/
theorem handshake_utterances_challenged :
    let calls := (performAll (Client.new challengedConfig challenging) [.handshake]).session.channel.calls
    writesIn calls = greeting challengedConfig ++ [encoded (.password "secret"),
      encoded (.password (md5Credential "ada" "secret" [1, 2, 3, 4]))] ∧
      Utters (beginning challengedConfig challenging) calls := by
  have utterances := handshake_utterances challengedConfig challenging [.handshake] (by decide)
  exact ⟨by decide +kernel, utterances.1⟩

end PgSession.Proofs
