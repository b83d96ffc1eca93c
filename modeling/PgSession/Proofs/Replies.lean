import PgSession.Proofs.Waiting

/-!
What a client says while it waits, compared with what it has heard. Every challenge is answered
before anything else is read, the answers stand in the order of the challenges, and after a write
that failed there is no other.
-/

namespace PgSession.Proofs
open Wire Session

variable {τ : Type} [Transport τ]

/-- What the writes among the calls were given to write. -/
def writesIn (calls : List Call) : List (List UInt8) :=
  calls.filterMap fun
    | .write _ bytes _ _ => some bytes
    | _ => none

/-- The challenges among the whole frames of a stream. -/
def challenges (stream : List UInt8) : List Authentication :=
  (frames stream).filterMap Frame.challenge?

/-- What a password becomes in answer to a challenge. -/
def credential (user password : String) : Authentication → String
  | .md5Password salt => md5Credential user password salt
  | _ => password

/-- One message for each challenge, if there is a password at all. -/
def answers (config : Config) (asked : List Authentication) : List (List UInt8) :=
  match config.password with
  | none => []
  | some password =>
    asked.map fun challenge => encoded (.password (credential config.user password challenge))

theorem writesIn_append (calls more : List Call) :
    writesIn (calls ++ more) = writesIn calls ++ writesIn more := List.filterMap_append ..

private theorem answers_nil (config : Config) : answers config [] = [] := by
  unfold answers
  cases config.password <;> rfl

private theorem answers_append (config : Config) (asked more : List Authentication) :
    answers config (asked ++ more) = answers config asked ++ answers config more := by
  unfold answers
  cases config.password with
  | none => rfl
  | some password => exact List.map_append

private theorem challenges_flatMap {whole : List Frame} (fits : ∀ frame ∈ whole, frame.Fits)
    (rest : List UInt8) : challenges (whole.flatMap Frame.bytes ++ rest) =
      challenges (whole.flatMap Frame.bytes) ++ challenges rest := by
  have alone := frames_flatMap whole fits []
  rw [List.append_nil] at alone
  rw [challenges, challenges, challenges, frames_flatMap whole fits rest, alone, frames_nil,
    List.append_nil, List.filterMap_append]

private theorem challenges_nil : challenges [] = [] := by
  rw [challenges, frames_nil]
  rfl

/-- A header alone asks for nothing. -/
private theorem challenges_header {header : List UInt8} (five : header.length = headerSize) :
    challenges header = [] := by
  match header, five with
  | [tag, first, second, third, fourth], _ =>
    have silent : Frame.challenge? ⟨tag, []⟩ = none := by
      by_cases authentication : tag = Tag.authentication
      · rw [Frame.challenge?, Frame.reads?, if_pos authentication]
        rfl
      · rw [Frame.challenge?, Frame.reads?_other authentication]
    rw [challenges, frames]
    split
    · rw [List.take_nil, List.drop_nil, frames_nil, List.filterMap_cons, silent]
      rfl
    · rfl

private theorem challenges_frame {frame : Frame} (fits : frame.Fits) :
    challenges frame.bytes = frame.challenge?.toList := by
  have alone := frames_bytes frame fits []
  rw [List.append_nil, frames_nil] at alone
  rw [challenges, alone, List.filterMap_cons]
  cases frame.challenge? <;> rfl

private theorem answers_reply {config : Config} {challenge : Authentication} {answer : String}
    (replied : reply config challenge = .ok (some answer)) :
    answers config [challenge] = [encoded (.password answer)] ∧ config.password ≠ none := by
  unfold reply at replied
  split at replied
  · cases replied
  · cases replied
  · next password set =>
    cases replied
    rw [answers, set]
    exact ⟨rfl, nofun⟩
  · next salt password set =>
    cases replied
    rw [answers, set]
    exact ⟨rfl, nofun⟩

/-- Everything that was asked has been answered, and there was a password to answer with. -/
def Answered (config : Config) (link : τ) (calls : List Call) : Prop :=
  writesIn calls = answers config (challenges (heard link calls)) ∧
    (challenges (heard link calls) ≠ [] → config.password ≠ none)

/-- At any time the answers are a beginning of what was asked for, at every read nothing is left to
answer, and nothing is written after a write that failed. -/
structure Replies (config : Config) (link : τ) (calls : List Call) : Prop where
  said : writesIn calls <+: answers config (challenges (heard link calls))
  prompt : ∀ {before count timeout succeeded after},
    calls = before ++ .read count timeout succeeded :: after → Answered config link before
  failed : ∀ {before encrypted bytes timeout after},
    calls = before ++ .write encrypted bytes timeout false :: after → writesIn after = []

/-- A whole number of frames was heard, and all that had to be written was written. -/
structure Settled (config : Config) (link : τ) (calls : List Call) : Prop
    extends Replies config link calls where
  answered : Answered config link calls
  whole : ∃ whole : List Frame, (∀ frame ∈ whole, frame.Fits) ∧
    heard link calls = whole.flatMap Frame.bytes
  written : ∀ {encrypted bytes timeout}, .write encrypted bytes timeout false ∉ calls

namespace Settled

variable {config : Config} {link : τ} {calls more : List Call}

theorem nil : Settled config link [] where
  said := List.nil_prefix
  prompt split := (split_nil split).elim
  failed split := (split_nil split).elim
  answered := by
    have nothing : challenges (heard link []) = [] := challenges_nil
    rw [Answered, nothing]
    exact ⟨(answers_nil config).symm, fun asked => absurd rfl asked⟩
  whole := ⟨[], nofun, rfl⟩
  written := nofun

private theorem challenges_append (settled : Settled config link calls) (more : List Call) :
    challenges (heard link (calls ++ more)) =
      challenges (heard link calls) ++ challenges (heard (replay link calls) more) := by
  obtain ⟨whole, fits, same⟩ := settled.whole
  rw [heard_append, same, challenges_flatMap fits]

private theorem answered_append (settled : Settled config link calls)
    (others : Answered config (replay link calls) more) : Answered config link (calls ++ more) := by
  obtain ⟨said, possible⟩ := settled.answered
  rw [Answered, settled.challenges_append, writesIn_append, answers_append, said, others.1]
  refine ⟨rfl, fun asked => ?_⟩
  by_cases earlier : challenges (heard link calls) = []
  · rw [earlier, List.nil_append] at asked
    exact others.2 asked
  · exact possible earlier

/-- Once everything is settled, what follows can be judged by itself. -/
theorem replies (settled : Settled config link calls)
    (others : Replies config (replay link calls) more) : Replies config link (calls ++ more) where
  said := by
    rw [settled.challenges_append, writesIn_append, answers_append, settled.answered.1]
    exact List.prefix_append_right_inj _ |>.mpr others.said
  prompt split := by
    rcases split_append split with ⟨middle, front, -⟩ | ⟨middle, rfl, back⟩
    · exact settled.prompt front
    · exact settled.answered_append (others.prompt back)
  failed := by
    intro before encrypted bytes timeout after split
    rcases split_append split with ⟨middle, front, -⟩ | ⟨middle, rfl, back⟩
    · -- Only a write after which nothing is settled can have failed.
      exact absurd (split_mem front) settled.written
    · exact others.failed back

theorem append (settled : Settled config link calls)
    (others : Settled config (replay link calls) more) : Settled config link (calls ++ more) where
  toReplies := settled.replies others.toReplies
  answered := settled.answered_append others.answered
  whole := by
    obtain ⟨first, fits, same⟩ := settled.whole
    obtain ⟨second, fits', same'⟩ := others.whole
    refine ⟨first ++ second, ?_, ?_⟩
    · intro frame member
      rcases List.mem_append.mp member with front | back
      · exact fits frame front
      · exact fits' frame back
    · rw [heard_append, same, same', List.flatMap_append]
  written member := by
    rcases List.mem_append.mp member with front | back
    · exact settled.written front
    · exact others.written back

end Settled

/-- How waiting for a message may go: everything is settled when it is over. -/
def Waits {α : Type} (before : Outlook τ) (calls : List Call) (result : Except (Halt Error) α) : Prop :=
  Replies before.config before.link calls ∧
    ∀ value, result = .ok value → Settled before.config before.link calls

variable {before : Outlook τ} {timeout : Nat} {calls : List Call}

theorem Receives.silent {result : Except (Halt Error) Frame}
    (receives : Receives before timeout calls result) : writesIn calls = [] := by
  cases receives <;> rfl

/-- While a frame is not there yet, nothing was asked. -/
theorem Receives.prompt {result : Except (Halt Error) Frame}
    (receives : Receives before timeout calls result) {earlier after : List Call} {call : Call}
    (split : calls = earlier ++ call :: after) : Answered before.config before.link earlier := by
  have start : Answered before.config before.link [] := Settled.nil.answered
  have behind : ∀ header : List Call, writesIn header = [] →
      (heard before.link header).length = headerSize → Answered before.config before.link header := by
    intro header silent five
    rw [Answered, silent, challenges_header five]
    exact ⟨(answers_nil before.config).symm, fun asked => absurd rfl asked⟩
  cases receives with
  | unheard | refused =>
    obtain ⟨rfl, -, -⟩ := split_one split
    exact start
  | cut five | whole five =>
    rcases split_two split with ⟨rfl, -, -⟩ | ⟨rfl, -, -⟩
    · exact start
    · exact behind _ rfl five

private theorem silent_split {calls before after : List Call} (silent : writesIn calls = [])
    {encrypted : Bool} {bytes : List UInt8} {timeout : Nat} {succeeded : Bool}
    (split : calls = before ++ .write encrypted bytes timeout succeeded :: after) : False := by
  rw [split, writesIn_append] at silent
  cases (List.append_eq_nil_iff.mp silent).2

/-- Nothing more, or one write. -/
def AtMostWrites (calls : List Call) : Prop :=
  calls = [] ∨ ∃ encrypted bytes timeout succeeded, calls = [.write encrypted bytes timeout succeeded]

private theorem heard_acted {frame : Frame} (receives : Receives before timeout calls (.ok frame))
    {more : List Call} (one : AtMostWrites more) :
    frame.Fits ∧ heard before.link (calls ++ more) = frame.bytes := by
  cases receives with
  | whole _ fits _ same =>
    refine ⟨fits, ?_⟩
    rw [heard_append, same]
    rcases one with rfl | ⟨_, _, _, _, rfl⟩ <;> exact List.append_nil _

/-- A frame that was received, and the beginning of an answer to it. -/
theorem Receives.acted {frame : Frame} (receives : Receives before timeout calls (.ok frame))
    {more : List Call} (one : AtMostWrites more)
    (said : writesIn more <+: answers before.config frame.challenge?.toList) :
    Replies before.config before.link (calls ++ more) := by
  obtain ⟨fits, same⟩ := heard_acted receives one
  constructor
  · rw [same, challenges_frame fits, writesIn_append, receives.silent]
    exact said
  · intro earlier count timeout' succeeded after split
    rcases split_append split with ⟨middle, front, -⟩ | ⟨middle, rfl, back⟩
    · exact receives.prompt front
    · rcases one with rfl | ⟨_, _, _, _, rfl⟩
      · exact (split_nil back).elim
      · obtain ⟨-, impossible, -⟩ := split_one back
        cases impossible
  · intro earlier encrypted bytes timeout' after split
    rcases split_append split with ⟨middle, front, -⟩ | ⟨middle, rfl, back⟩
    · exact (silent_split receives.silent front).elim
    · rcases one with rfl | ⟨_, _, _, _, rfl⟩
      · exact (split_nil back).elim
      · obtain ⟨-, -, rfl⟩ := split_one back
        rfl

/-- A frame that was received and answered, if it asked for something. -/
theorem Receives.settled {frame : Frame} (receives : Receives before timeout calls (.ok frame))
    {more : List Call} (one : AtMostWrites more)
    (said : writesIn more = answers before.config frame.challenge?.toList)
    (possible : frame.challenge? ≠ none → before.config.password ≠ none)
    (written : ∀ {encrypted bytes timeout}, .write encrypted bytes timeout false ∉ more) :
    Settled before.config before.link (calls ++ more) := by
  obtain ⟨fits, same⟩ := heard_acted receives one
  refine ⟨receives.acted one (said ▸ List.prefix_rfl), ?_, ⟨[frame], ?_, ?_⟩, ?_⟩
  · rw [Answered, same, challenges_frame fits, writesIn_append, receives.silent]
    refine ⟨said, fun asked => possible ?_⟩
    intro nothing
    rw [nothing] at asked
    exact asked rfl
  · intro other member
    rw [List.mem_singleton.mp member]
    exact fits
  · rw [same]
    exact (List.append_nil _).symm
  · intro encrypted bytes timeout' member
    rcases List.mem_append.mp member with front | back
    · obtain ⟨earlier, after, split⟩ := List.append_of_mem front
      exact silent_split receives.silent split
    · exact written back

theorem Receives.replies {result : Except (Halt Error) Frame}
    (receives : Receives before timeout calls result) : Replies before.config before.link calls where
  said := by
    rw [receives.silent]
    exact List.nil_prefix
  prompt split := receives.prompt split
  failed split := (silent_split receives.silent split).elim

/-- A frame that asks for nothing needs no answer. -/
theorem Receives.unasked {frame : Frame} (receives : Receives before timeout calls (.ok frame))
    (unasked : frame.challenge? = none) : Settled before.config before.link (calls ++ []) := by
  refine receives.settled (.inl rfl) ?_ (fun asked => absurd unasked asked) nofun
  rw [unasked]
  exact (answers_nil before.config).symm

private theorem general_unasked {frame : Frame} (general : frame.general.isSome) :
    frame.challenge? = none := by
  by_cases tag : frame.tag = Tag.authentication
  · have solicited : frame.general = none := by
      apply Frame.general_none <;> rw [tag] <;> decide
    rw [solicited] at general
    cases general
  · rw [Frame.challenge?, Frame.reads?_other tag]

section

variable {acts : Acting τ Unit} {report report' : Report} (acted : ∀ {before report frame calls report'
  result}, acts before report frame calls report' result → Answers before frame calls result)

include acted

/-- A turn keeps to the rule, and leaves nothing to answer if it comes to anything. -/
theorem Turns.waits {result : Except (Halt Error) (Option Unit)}
    (turns : Turns acts before report calls report' result) : Waits before calls result := by
  cases turns with
  | unheard receives => exact ⟨receives.replies, nofun⟩
  | general receives general =>
    have settled := receives.unasked (general_unasked general)
    rw [List.append_nil] at settled
    exact ⟨settled.toReplies, fun _ _ => settled⟩
  | acted receives _ acts =>
    cases acted acts with
    | unasked value unasked =>
      have settled := receives.unasked unasked
      exact ⟨settled.toReplies, fun _ _ => settled⟩
    | refused halt => exact ⟨receives.acted (.inl rfl) List.nil_prefix, nofun⟩
    | answered asked replied =>
      obtain ⟨one, possible⟩ := answers_reply replied
      suffices settled : Settled before.config before.link _ from
        ⟨settled.toReplies, fun _ _ => settled⟩
      refine receives.settled (.inr ⟨_, _, _, true, rfl⟩) ?_ (fun _ => possible) ?_
      · rw [asked]
        exact one.symm
      · simp [Outlook.writes]
    | unsent asked replied error =>
      obtain ⟨one, -⟩ := answers_reply replied
      refine ⟨receives.acted (.inr ⟨_, _, _, false, rfl⟩) ?_, nofun⟩
      rw [asked]
      exact one ▸ List.prefix_rfl

/-- Whatever a stage waits for, it keeps to the rule. -/
theorem Attends.waits {result : Except (Halt Error) Unit}
    (attends : Attends acts before report calls report' result) : Waits before calls result := by
  induction attends with
  | last turns =>
    have settled := (turns.waits acted).2 _ rfl
    exact ⟨settled.toReplies, fun _ _ => settled⟩
  | halted turns => exact ⟨(turns.waits acted).1, nofun⟩
  | onward turns _ ih =>
    have settled := (turns.waits acted).2 _ rfl
    exact ⟨settled.replies ih.1, fun value done => settled.append (ih.2 value done)⟩

end

variable {report report' : Report} {result : Except (Halt Error) Unit}

theorem Authenticating.waits (does : Authenticating before report calls report' result) :
    Guarded (Waits before) calls result :=
  Guarded.mono does fun _ _ attends => attends.waits Demanding.answers

theorem Readying.waits (does : Readying before report calls report' result) :
    Guarded (Waits before) calls result :=
  Guarded.mono does fun _ _ attends => attends.waits Concluding.answers

end PgSession.Proofs
