import PgSession.Proofs.Runs

/-!
The course of a run as its transport sees it. After the negotiation there is talk over a line that
stays as it is, and at most one closing. A negotiation that fails ends the run, and a request to
cancel takes the place of everything.
-/

namespace PgSession.Proofs
open Wire Session

variable {τ : Type} [Transport τ] {start : Outlook τ} {cancels : Prop}

/-- Any message at all. -/
abbrev Anything (_ : FrontendMessage) : Prop := True

/-- The calls of a run that has come to a phase. -/
inductive Course (start : Outlook τ) (cancels : Prop) : Phase → List Call → Prop
  | fresh : Course start cancels .startup []
  | insecure {calls : List Call} {halt : Halt Error} (secures : Secures start calls (.error halt)) :
    Course start cancels .done calls
  | talking {phase : Phase} (begun : phase ≠ .startup) {opening talk : List Call}
    (secures : Secures start opening (.ok ()))
    (talks : Talks Anything (start.after opening) talk) :
    Course start cancels phase (opening ++ talk)
  | closed {opening talk : List Call} (secures : Secures start opening (.ok ()))
    (talks : Talks Anything (start.after opening) talk) (closed : Bool) :
    Course start cancels .done (opening ++ talk ++ [.close closed])
  | cancelled (allowed : cancels) (key : KeyData) {calls : List Call}
    (parts : Parts start key.cancelRequest calls) : Course start cancels .done calls

namespace Course

variable {phase : Phase} {calls made : List Call}

theorem of_startup (course : Course start cancels .startup calls) : calls = [] := by
  cases course with
  | fresh => rfl
  | talking begun => exact absurd rfl begun

/-- Between the negotiation and the end there is only talk. -/
theorem of_open (course : Course start cancels phase calls) (begun : phase ≠ .startup)
    (going : phase ≠ .done) : ∃ opening talk, calls = opening ++ talk ∧
      Secures start opening (.ok ()) ∧ Talks Anything (start.after opening) talk := by
  cases course with
  | fresh => exact absurd rfl begun
  | talking _ secures talks => exact ⟨_, _, rfl, secures, talks⟩
  | insecure | closed | cancelled => exact absurd rfl going

/-- A stage goes on talking, and closes the transport if it fails. -/
theorem stage (course : Course start cancels phase calls) (begun : phase ≠ .startup)
    (going : phase ≠ .done) {success : Phase} (further : success ≠ .startup)
    {result : Except (Halt Error) Unit}
    (talks : Guarded (fun made _ => Talks Anything (start.after calls) made) made result) :
    Course start cancels (leads success .done result) (calls ++ made) := by
  obtain ⟨opening, talk, rfl, secures, earlier⟩ := course.of_open begun going
  rw [Outlook.after_append] at talks
  cases talks with
  | going talks =>
    have begun : leads success .done result ≠ .startup := by
      rcases result with (_ | _) | _
      · exact nofun
      · exact nofun
      · exact further
    rw [List.append_assoc]
    exact .talking begun secures (earlier.append talks)
  | closed talks closed =>
    rw [← List.append_assoc, List.append_assoc opening]
    exact .closed secures (earlier.append talks) closed

/-- The client says good bye and closes the transport. -/
theorem parting (course : Course start cancels phase calls) (begun : phase ≠ .startup)
    (going : phase ≠ .done) (parts : Parts (start.after calls) .terminate made) :
    Course start cancels .done (calls ++ made) := by
  obtain ⟨opening, talk, rfl, secures, earlier⟩ := course.of_open begun going
  obtain ⟨sent, closed, rfl⟩ := parts
  have last : Talks Anything ((start.after opening).after talk)
      [((start.after opening).after talk).writes .terminate sent] := .one trivial _ sent
  have whole : Course start cancels .done (opening ++ (talk ++ [_]) ++ [.close closed]) :=
    .closed secures (earlier.append last) closed
  simp only [List.append_assoc, List.singleton_append] at whole
  rw [List.append_assoc, Outlook.after_append]
  exact whole

theorem step (course : Course start cancels phase calls) {operation : Operation} {answer : Answer}
    {report report' : Report} {phase' : Phase} (single : operation ≠ .handshake)
    (ran : Ran (start.after calls) report phase operation made report' answer phase')
    (allowed : ∀ key, operation = .cancelOther key → cancels) :
    Course start cancels phase' (calls ++ made) := by
  cases ran with
  | still =>
    rw [List.append_nil]
    exact course
  | handshake => exact absurd rfl single
  | @secure _ _ result does =>
    obtain ⟨-, secures⟩ := does
    obtain rfl := course.of_startup
    rw [Outlook.after_nil] at secures
    cases result with
    | ok nothing =>
      have begun : Phase.secured ≠ .startup := nofun
      have opened : Course start cancels .secured (made ++ []) := .talking begun secures .nil
      rw [List.append_nil] at opened
      exact opened
    | error halt =>
      have ended : Course start cancels .done made := .insecure secures
      cases halt <;> exact ended
  | sendStartup does =>
    have further : Phase.authenticating ≠ .startup := nofun
    refine course.stage nofun nofun further (does.2.mono fun more result wrote => ?_)
    cases wrote with
    | sent | failed => exact .one trivial _ _
    | long => exact .nil
  | authenticate does =>
    have further : Phase.authenticated ≠ .startup := nofun
    exact course.stage nofun nofun further
      (does.talks.mono fun _ _ said => said.mono fun _ _ => trivial)
  | ready does =>
    have further : Phase.connection ≠ .startup := nofun
    exact course.stage nofun nofun further
      (does.talks.mono fun _ _ said => said.mono fun _ _ => trivial)
  | @tick timeout _ _ result ticks =>
    have talks := ticks.talks
    obtain ⟨opening, talk, rfl, secures, earlier⟩ := course.of_open nofun nofun
    rw [Outlook.after_append] at talks
    have further : leads .connection .connection result ≠ .startup := by
      rcases result with (_ | _) | _ <;> nofun
    rw [List.append_assoc]
    exact .talking further secures (earlier.append (talks.mono fun _ _ => trivial))
  | @cancelOther key _ result parts =>
    obtain rfl := course.of_startup
    rw [Outlook.after_nil] at parts
    rw [leads_done]
    exact .cancelled (allowed key rfl) key parts
  | close parts =>
    rw [leads_done]
    exact course.parting nofun nofun parts
  | terminated given parts =>
    rw [leads_done]
    exact course.parting nofun nofun parts

end Course

/-- Every run follows a course. -/
theorem performAll_course (config : Config) (link : τ) {operations : List Operation}
    (allowed : ∀ key, .cancelOther key ∈ operations → cancels) :
    Underway (beginning config link) (Course (beginning config link) cancels)
      (performAll (Client.new config link) operations) := by
  refine performAll_underway config link
    (fun operation => ∀ key, operation = .cancelOther key → cancels) .fresh
    (fun course permit single ran => course.step single ran permit) ?_ ?_
  · intro stage member key same
    subst same
    simp [stages] at member
  · intro operation member key same
    exact allowed key (same ▸ member)

end PgSession.Proofs
