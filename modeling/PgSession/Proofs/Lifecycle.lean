import PgSession.Proofs.Courses

/-!
The life of a transport. It is closed at most once and upgraded at most once, nothing follows the
closing, and the upgrade follows the answer that allows it. A stage of the handshake that fails says
no good bye: it closes the transport, unless the upgrade has already used it up.
-/

namespace PgSession.Proofs
open Wire Session

variable {τ : Type} [Transport τ] {start : Outlook τ}

namespace Secures

variable {calls : List Call} {result : Except (Halt Error) Unit}

/-- Only a negotiation that fails closes the transport, and that is its end. -/
theorem closing (secures : Secures start calls result) {before after : List Call} {closed : Bool}
    (split : calls = before ++ .close closed :: after) : after = [] ∧ result ≠ .ok () := by
  have present := split_mem split
  cases secures with
  | skipped | refused | accepted | stuck => simp [Outlook.writes] at present
  | @broken wanted required asked cause requests =>
    have going : .close closed ∉ asked := by
      intro member
      rcases requests.plain member with ⟨_, impossible⟩ | ⟨_, impossible⟩ <;> cases impossible
    obtain ⟨middle, -, back⟩ := split_behind split going
    obtain ⟨-, -, rfl⟩ := split_one back
    refine ⟨rfl, fun impossible => ?_⟩
    cases impossible

/-- An upgrade is the last call of a negotiation, and decides what it comes to. -/
theorem upgrading (secures : Secures start calls result) {before after : List Call}
    {succeeded : Bool} (split : calls = before ++ .upgrade succeeded :: after) :
    before = [start.writes .sslRequest true, .read 1 start.config.timeout true] ∧
      heard start.link before = [sslAccepted] ∧ after = [] ∧ (succeeded = true ↔ result = .ok ()) := by
  have present := split_mem split
  have last : ∀ made, [start.writes .sslRequest true, .read 1 start.config.timeout true,
      .upgrade made] = before ++ .upgrade succeeded :: after →
      before = [start.writes .sslRequest true, .read 1 start.config.timeout true] ∧
        made = succeeded ∧ after = [] := by
    intro made same
    have asked : .upgrade succeeded ∉
        [start.writes .sslRequest true, .read 1 start.config.timeout true] := by
      simp [Outlook.writes]
    have halves : [start.writes .sslRequest true, .read 1 start.config.timeout true] ++
        [.upgrade made] = before ++ .upgrade succeeded :: after := same
    obtain ⟨middle, rfl, back⟩ := split_behind halves asked
    obtain ⟨rfl, ⟨⟩, rfl⟩ := split_one back
    exact ⟨List.append_nil _, rfl, rfl⟩
  cases secures with
  | skipped | refused => simp [Outlook.writes] at present
  | broken wanted requests =>
    rcases List.mem_append.mp present with front | back
    · rcases requests.plain front with ⟨_, impossible⟩ | ⟨_, impossible⟩ <;> cases impossible
    · cases List.mem_singleton.mp back
  | accepted wanted heard =>
    obtain ⟨rfl, rfl, rfl⟩ := last true split
    exact ⟨rfl, heard, rfl, by simp⟩
  | stuck wanted heard error =>
    obtain ⟨rfl, rfl, rfl⟩ := last false split
    exact ⟨rfl, heard, rfl, by simp⟩

end Secures

private theorem Talks.open {spoken : FrontendMessage → Prop} {calls : List Call}
    (talks : Talks spoken start calls) (closed : Bool) : .close closed ∉ calls := by
  intro member
  rcases talks.only _ member with ⟨_, _, _, impossible⟩ | ⟨_, _, _, -, impossible⟩ <;>
    cases impossible

private theorem Talks.keeps {spoken : FrontendMessage → Prop} {calls : List Call}
    (talks : Talks spoken start calls) (succeeded : Bool) : .upgrade succeeded ∉ calls := by
  intro member
  rcases talks.only _ member with ⟨_, _, _, impossible⟩ | ⟨_, _, _, -, impossible⟩ <;>
    cases impossible

namespace Course

variable {cancels : Prop} {phase : Phase} {calls before after : List Call}

/-- Nothing follows the closing. -/
theorem closing (course : Course start cancels phase calls) {closed : Bool}
    (split : calls = before ++ .close closed :: after) : after = [] := by
  have quiet : ∀ {opening talk}, Secures start opening (.ok ()) →
      Talks Anything (start.after opening) talk → .close closed ∉ opening ++ talk := by
    intro opening talk secures talks member
    rcases List.mem_append.mp member with front | back
    · obtain ⟨_, _, inside⟩ := List.append_of_mem front
      exact (secures.closing inside).2 rfl
    · exact talks.open closed back
  cases course with
  | fresh => exact (split_nil split).elim
  | insecure secures => exact (secures.closing split).1
  | talking _ secures talks => exact absurd (split_mem split) (quiet secures talks)
  | closed secures talks last =>
    obtain ⟨middle, -, back⟩ := split_behind split (quiet secures talks)
    exact (split_one back).2.2
  | cancelled _ key parts =>
    obtain ⟨sent, last, rfl⟩ := parts
    rcases split_two split with ⟨-, impossible, -⟩ | ⟨-, -, done⟩
    · cases impossible
    · exact done

/-- An upgrade follows the answer that allows it, there is no other, and if it fails there is no
other call. -/
theorem upgrading (course : Course start cancels phase calls) {succeeded : Bool}
    (split : calls = before ++ .upgrade succeeded :: after) :
    before = [start.writes .sslRequest true, .read 1 start.config.timeout true] ∧
      heard start.link before = [sslAccepted] ∧ (∀ other, .upgrade other ∉ after) ∧
      (succeeded = false → after = []) := by
  have inside : ∀ {opening rest}, Secures start opening (.ok ()) → (∀ other, .upgrade other ∉ rest) →
      opening ++ rest = before ++ .upgrade succeeded :: after →
      before = [start.writes .sslRequest true, .read 1 start.config.timeout true] ∧
        heard start.link before = [sslAccepted] ∧ (∀ other, .upgrade other ∉ after) ∧
        (succeeded = false → after = []) := by
    intro opening rest secures plain split
    obtain ⟨middle, front, rfl⟩ := split_ahead split (plain succeeded)
    obtain ⟨same, heard, rfl, done⟩ := secures.upgrading front
    refine ⟨same, heard, plain, fun failed => ?_⟩
    rw [failed] at done
    exact absurd (done.mpr rfl) Bool.false_ne_true
  cases course with
  | fresh => exact (split_nil split).elim
  | insecure secures =>
    obtain ⟨same, heard, rfl, -⟩ := secures.upgrading split
    exact ⟨same, heard, fun _ => List.not_mem_nil, fun _ => rfl⟩
  | talking _ secures talks => exact inside secures talks.keeps split
  | closed secures talks last =>
    rw [List.append_assoc] at split
    refine inside secures (fun other member => ?_) split
    rcases List.mem_append.mp member with front | back
    · exact talks.keeps other front
    · cases List.mem_singleton.mp back
  | cancelled _ key parts =>
    obtain ⟨sent, last, rfl⟩ := parts
    rcases split_two split with ⟨-, impossible, -⟩ | ⟨-, impossible, -⟩ <;> cases impossible

end Course

/-- The bytes of the good bye. -/
def goodBye : List UInt8 := [88, 0, 0, 0, 4]

/-- Neither a closing, nor an upgrade that fails, nor a good bye. -/
def Ongoing (calls : List Call) : Prop :=
  ∀ call ∈ calls, (∀ closed, call ≠ .close closed) ∧ call ≠ .upgrade false ∧
    ∀ encrypted timeout succeeded, call ≠ .write encrypted goodBye timeout succeeded

theorem Ongoing.append {calls more : List Call} (ongoing : Ongoing calls) (others : Ongoing more) :
    Ongoing (calls ++ more) := by
  intro call member
  rcases List.mem_append.mp member with front | back
  · exact ongoing call front
  · exact others call back

/-- How a stage may end: it closes the transport exactly when it fails, unless an upgrade did. -/
inductive Ends : List Call → Except (Halt Error) Unit → Prop
  | going {calls : List Call} {result : Except (Halt Error) Unit} (ongoing : Ongoing calls)
    (unfailed : ∀ error, result ≠ .error (.failed error)) : Ends calls result
  | closed {talk : List Call} (ongoing : Ongoing talk) (closed : Bool) (error : Error) :
    Ends (talk ++ [.close closed]) (.error (.failed error))
  | stuck {talk : List Call} (ongoing : Ongoing talk) (error : Error) :
    Ends (talk ++ [.upgrade false]) (.error (.failed error))

private theorem Ends.after {calls more : List Call} {result : Except (Halt Error) Unit}
    (ongoing : Ongoing calls) (ends : Ends more result) : Ends (calls ++ more) result := by
  cases ends with
  | going others unfailed => exact .going (ongoing.append others) unfailed
  | closed others closed error =>
    rw [← List.append_assoc]
    exact .closed (ongoing.append others) closed error
  | stuck others error =>
    rw [← List.append_assoc]
    exact .stuck (ongoing.append others) error

theorem Guarded.ends {described : List Call → Except (Halt Error) Unit → Prop} {calls : List Call}
    {result : Except (Halt Error) Unit} (guarded : Guarded described calls result)
    (ongoing : ∀ calls result, described calls result → Ongoing calls) : Ends calls result := by
  cases guarded with
  | going holds unfailed => exact .going (ongoing _ _ holds) unfailed
  | closed holds closed error => exact .closed (ongoing _ _ holds) closed error

/-- What stages that may only end so one after another may end in. -/
theorem Then.ends {first second : Doing τ} (ends : ∀ {before report calls report' result},
      first before report calls report' result → Ends calls result)
    (others : ∀ {before report calls report' result},
      second before report calls report' result → Ends calls result) {before : Outlook τ}
    {report report' : Report} {calls : List Call} {result : Except (Halt Error) Unit}
    (stages : Then first second before report calls report' result) : Ends calls result := by
  cases stages with
  | halted ended => exact ends ended
  | onward done rest =>
    cases ends done with
    | going ongoing => exact (others rest).after ongoing

theorem encoded_terminate : encoded .terminate = goodBye := by decide

/-- No other message is taken for a good bye. -/
private theorem encoded_goodBye {message : FrontendMessage} (same : encoded message = goodBye) :
    message = .terminate := by
  have five : (encoded message).length = 5 := congrArg List.length same
  cases message with
  | terminate => rfl
  | sslRequest | cancelRequest => cases five
  | password credential => cases same
  | startup version user database parameters =>
    simp only [encoded, FrontendMessage.items, Item.encodeAll, Item.encode, List.cons_append,
      List.length_append, word_length, int32_length] at five
    omega

private theorem Talks.ongoing {spoken : FrontendMessage → Prop} {calls : List Call}
    (talks : Talks spoken start calls) (further : ∀ message, spoken message → message ≠ .terminate) :
    Ongoing calls := by
  intro call member
  rcases talks.only call member with ⟨_, _, _, rfl⟩ | ⟨message, _, _, said, rfl⟩
  · exact ⟨nofun, nofun, nofun⟩
  · refine ⟨nofun, nofun, fun _ _ _ same => ?_⟩
    obtain ⟨-, bytes, -⟩ := Call.write.inj same
    exact further message said (encoded_goodBye bytes)

omit [Transport τ] in
private theorem Ongoing.writes {message : FrontendMessage} (further : message ≠ .terminate)
    (succeeded : Bool) : Ongoing [start.writes message succeeded] := by
  intro call member
  rw [List.mem_singleton.mp member]
  refine ⟨nofun, nofun, fun _ _ _ same => ?_⟩
  obtain ⟨-, bytes, -⟩ := Call.write.inj same
  exact further (encoded_goodBye bytes)

theorem Ongoing.read (count timeout : Nat) (succeeded : Bool) :
    Ongoing [.read count timeout succeeded] := by
  intro call member
  rw [List.mem_singleton.mp member]
  exact ⟨nofun, nofun, nofun⟩

theorem Secures.ends {calls : List Call} {result : Except (Halt Error) Unit}
    (secures : Secures start calls result) : Ends calls result := by
  have further : FrontendMessage.sslRequest ≠ .terminate := nofun
  have sent : ∀ made, Ongoing [start.writes .sslRequest made] := fun made => .writes further made
  have heard : ∀ listened, Ongoing [start.writes .sslRequest true,
      .read 1 start.config.timeout listened] := fun listened => (sent true).append (.read 1 _ listened)
  have upgraded : Ongoing [.upgrade true] := by
    intro call member
    rw [List.mem_singleton.mp member]
    exact ⟨nofun, nofun, nofun⟩
  cases secures with
  | skipped => exact .going nofun nofun
  | broken wanted requests =>
    refine .closed ?_ _ _
    cases requests with
    | unsent => exact sent false
    | unheard => exact heard false
    | rejected => exact heard true
  | refused => exact .going (heard true) nofun
  | accepted => exact .going ((heard true).append upgraded) nofun
  | stuck wanted answer error => exact .stuck (heard true) error

section

variable {report report' : Report} {calls : List Call} {result : Except (Halt Error) Unit}

omit [Transport τ] in
theorem Introducing.ends (does : Introducing start report calls report' result) : Ends calls result := by
  have further : startupMessage start.config ≠ .terminate := nofun
  refine does.2.ends fun calls result wrote => ?_
  cases wrote with
  | sent | failed => exact .writes further _
  | long => exact nofun

theorem Authenticating.ends (does : Authenticating start report calls report' result) :
    Ends calls result := by
  refine does.talks.ends fun calls result said => said.ongoing ?_
  rintro message ⟨answer, rfl⟩
  exact nofun

theorem Readying.ends (does : Readying start report calls report' result) : Ends calls result :=
  does.talks.ends fun _ _ said => said.ongoing nofun

theorem Shaking.ends (does : Shaking start report calls report' result) : Ends calls result :=
  Then.ends (fun secured => secured.2.ends)
    (Then.ends Introducing.ends (Then.ends Authenticating.ends Readying.ends)) does

end

/-- What an operation does to the transport, given its answer. -/
def Handles : Operation → Answer → List Call → Prop
  | .handshake, answer, made | .secure, answer, made | .sendStartup, answer, made
  | .authenticate, answer, made | .ready, answer, made =>
    ∀ error, answer = .finished (.error error) → ∃ talk last, made = talk ++ [last] ∧
      Ongoing talk ∧ (last = .upgrade false ∨ ∃ closed, last = .close closed)
  | .tick _, _, made => ∀ call ∈ made, ∃ count timeout succeeded, call = .read count timeout succeeded
  | .close, _, made | .terminated _, _, made => ∃ encrypted timeout sent closed,
      made = [.write encrypted goodBye timeout sent, .close closed]
  | .cancelOther key, _, made => ∃ encrypted timeout sent closed,
      made = [.write encrypted (encoded key.cancelRequest) timeout sent, .close closed]
  | _, _, made => made = []

private theorem Ends.handled {calls : List Call} {result : Except (Halt Error) Unit}
    (ends : Ends calls result) (error : Error) (failed : answered result = .finished (.error error)) :
    ∃ talk last, calls = talk ++ [last] ∧ Ongoing talk ∧
      (last = .upgrade false ∨ ∃ closed, last = .close closed) := by
  cases ends with
  | going ongoing unfailed =>
    rcases result with (_ | _) | _
    · exact absurd rfl (unfailed _)
    · cases failed
    · cases failed
  | closed ongoing closed error => exact ⟨_, _, rfl, ongoing, .inr ⟨closed, rfl⟩⟩
  | stuck ongoing error => exact ⟨_, _, rfl, ongoing, .inl rfl⟩

omit [Transport τ] in
private theorem Parts.handled {message : FrontendMessage} {calls : List Call}
    (parts : Parts start message calls) : ∃ encrypted timeout sent closed,
      calls = [.write encrypted (encoded message) timeout sent, .close closed] := by
  obtain ⟨sent, closed, rfl⟩ := parts
  exact ⟨_, _, sent, closed, rfl⟩

theorem Ran.handles {report report' : Report} {phase phase' : Phase} {operation : Operation}
    {calls : List Call} {answer : Answer}
    (ran : Ran start report phase operation calls report' answer phase') :
    Handles operation answer calls := by
  cases ran with
  | still quiet =>
    cases operation with
    | subscribe | unsubscribe | settings | parameter => rfl
    | _ => cases quiet
  | handshake does => exact does.ends.handled
  | secure does => exact does.2.ends.handled
  | sendStartup does => exact does.ends.handled
  | authenticate does => exact does.ends.handled
  | ready does => exact does.ends.handled
  | tick timeout ticks =>
    intro call member
    rcases ticks.talks.only call member with read | ⟨_, _, _, nothing, -⟩
    · exact read
    · exact nothing.elim
  | cancelOther key parts => exact parts.handled
  | close parts | terminated given parts =>
    have handled := parts.handled
    rw [encoded_terminate] at handled
    exact handled

private theorem read_heard {link : τ} {call : Call} {count timeout : Nat} {succeeded : Bool}
    {bytes : List UInt8} (some : bytes ≠ []) (silent : heardBy link call = [])
    (same : heard link [call, .read count timeout succeeded] = bytes) :
    (Transport.read (replay link [call]) count timeout).1 = .ok bytes := by
  have behind : heardBy (afterCall link call) (.read count timeout succeeded) = bytes := by
    rw [← same, heard, silent, heard, heard, List.append_nil, List.nil_append]
  change (Transport.read (afterCall link call) count timeout).1 = .ok bytes
  cases ran : Transport.read (afterCall link call) count timeout with
  | mk result link' =>
    simp only [heardBy, ran] at behind
    cases result with
    | ok heard => exact congrArg Except.ok behind
    | error error => exact absurd behind.symm some

/-- After any operations, the transport has been closed and upgraded as it should, and so it stays
whichever operation comes next. -/
theorem transport_lifecycle (config : Config) (link : τ) (operations : List Operation) :
    let client := performAll (Client.new config link) operations
    let calls := client.session.channel.calls
    (∀ before closed after, calls = before ++ .close closed :: after → after = []) ∧
    (∀ before succeeded after, calls = before ++ .upgrade succeeded :: after →
      (∃ earlier timeout, before = earlier ++ [.read 1 timeout true] ∧
        (Transport.read (replay link earlier) 1 timeout).1 = .ok [sslAccepted]) ∧
      (∀ other, .upgrade other ∉ before ++ after) ∧ (succeeded = false → after = [])) ∧
    ∀ operation, client.phase.allows operation → ∃ made,
      (client.perform operation).2.session.channel.calls = calls ++ made ∧
        Handles operation (client.perform operation).1 made := by
  intro client calls
  have underway : Underway (beginning config link) (Course (beginning config link) True) client :=
    performAll_course config link fun _ _ => trivial
  refine ⟨fun before closed after split => underway.known.closing split, ?_, ?_⟩
  · intro before succeeded after split
    obtain ⟨rfl, answer, others, last⟩ := underway.known.upgrading split
    refine ⟨⟨[_], _, rfl, ?_⟩, ?_, last⟩
    · exact read_heard (List.cons_ne_nil _ _) rfl answer
    · intro other member
      rcases List.mem_append.mp member with front | back
      · simp [Outlook.writes] at front
      · exact others other back
  · intro operation allowed
    obtain ⟨made, advances, -, ran⟩ := run_ran underway.sturdy allowed
    rw [perform_allowed allowed]
    exact ⟨made, advances.calls, ran.handles⟩

end PgSession.Proofs
